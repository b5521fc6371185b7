import AgentFirstMail.Channels.Publish

namespace AgentFirstMail
open Effect

/-- A call came back with a fault. -/
def DiskFaulted (history : List DiskEvent) : Prop :=
  ∃ event ∈ history, ∃ fault, event.reply = some (.ok (some fault))

theorem DiskFaulted.more {history : List DiskEvent} {event : DiskEvent} (h : DiskFaulted history) :
    DiskFaulted (history ++ [event]) := by
  obtain ⟨other, hmem, hfault⟩ := h
  exact ⟨other, List.mem_append_left _ hmem, hfault⟩

theorem DiskFaulted.last {history : List DiskEvent} {call : DiskCall} {disk : Disk UInt8}
    {fault : call.Fault} : DiskFaulted (history ++ [⟨call, disk, some (.ok (some fault))⟩]) :=
  ⟨_, List.mem_append_right _ (List.mem_singleton_self _), fault, rfl⟩

def IsTemporary (path : FilePath) : Prop := ∃ temp : TempName, path.name = temp.text

theorem not_isTemporary_of_json {path : FilePath} (h : path.name = stem ++ ".json") :
    ¬IsTemporary path := by
  intro ⟨temp, htemp⟩
  have hlast : (stem ++ ".json").toList.reverse.head? = temp.text.toList.reverse.head? := by
    rw [← h, htemp]
  simp only [TempName.text, String.toList_append, List.reverse_append] at hlast
  cases hlast

/-- A program over a disk, with what it keeps of the disk throughout. -/
abbrev Publishing.Ends (inv : Disk UInt8 → Prop)
    (post : α → Assertion (Disk UInt8) DiskCall DiskCall.Reply Empty) (program : Publishing α) :
    Assertion (Disk UInt8) DiskCall DiskCall.Reply Empty :=
  Program.wp (fun _ => inv) post (fun _ _ _ => True) program

section Calls
variable {inv : Disk UInt8 → Prop} {disk : Disk UInt8} {history : List DiskEvent}

theorem ends_perform {call : DiskCall}
    {post : call.Reply → Assertion (Disk UInt8) DiskCall DiskCall.Reply Empty} (hinv : inv disk)
    (hdone : ∀ h, (DiskFaulted history → DiskFaulted h) → post none h disk)
    (hfault : ∀ fault h, (DiskFaulted history → DiskFaulted h) → DiskFaulted h →
      post (some fault) h disk) :
    Publishing.Ends inv post (Program.perform call) history disk := by
  apply Program.wp_perform hinv (fun _ => hinv)
  · intro reply
    cases reply with
    | none => exact hdone _ fun h => h.more
    | some fault => exact hfault fault _ (fun h => h.more) .last
  · exact fun error => error.elim

variable {post : Except IoError Unit → Assertion (Disk UInt8) DiskCall DiskCall.Reply Empty}

theorem ends_io {tag : AppError → PublishError} {context : String}
    {operation : Publishing (Except IoError Unit)}
    {post : Except PublishError Unit → Assertion (Disk UInt8) DiskCall DiskCall.Reply Empty}
    (h : Publishing.Ends inv (fun result => match result with
      | .ok () => post (.ok ())
      | .error error => post (.error (tag (.io context error.text)))) operation history disk) :
    Publishing.Ends inv post (io tag context operation) history disk := by
  apply wp_then
  apply Program.wp_mono h
  · intro result history disk hpost
    cases result with
    | ok value => exact hpost
    | error error => exact hpost
  · exact fun _ _ _ h => h

theorem ends_seq {p : ExceptT PublishError Publishing α}
    {f : α → ExceptT PublishError Publishing β}
    {post : Except PublishError β → Assertion (Disk UInt8) DiskCall DiskCall.Reply Empty}
    (h : Publishing.Ends inv (fun result => match result with
      | .ok value => Publishing.Ends inv post (f value)
      | .error error => post (.error error)) p.run history disk) :
    Publishing.Ends inv post (p >>= f).run history disk := by
  apply wp_then
  apply Program.wp_mono h
  · intro result history disk hpost
    cases result with
    | ok value => exact hpost
    | error error => exact hpost
  · exact fun _ _ _ h => h

theorem ends_checked {call : DiskCall} {text : call.Fault → String} (hinv : inv disk)
    (hok : ∀ h, (DiskFaulted history → DiskFaulted h) → post (.ok ()) h disk)
    (herror : ∀ error h, (DiskFaulted history → DiskFaulted h) → DiskFaulted h →
      post (.error error) h disk) :
    Publishing.Ends inv post (checked call text) history disk := by
  apply wp_then
  apply ends_perform hinv
  · exact hok
  · exact fun fault h hmore hfault => herror _ h hmore hfault

theorem ends_createNew {path : FilePath} (hinv : inv disk)
    (hcreated : disk.entries path = none → inv (disk.create path) ∧
      ∀ h, (DiskFaulted history → DiskFaulted h) → post (.ok ()) h (disk.create path))
    (herror : ∀ error h, (DiskFaulted history → DiskFaulted h) → post (.error error) h disk) :
    Publishing.Ends inv post (createNew path) history disk := by
  apply wp_then
  apply ends_perform hinv
  · intro h hmore
    change Program.wp _ _ _ (if (disk.entries path).isSome then _ else _) h disk
    split
    · exact herror .alreadyExists h hmore
    · rename_i hfree
      obtain ⟨hinv, hpost⟩ := hcreated (Option.not_isSome_iff_eq_none.mp hfree)
      exact ⟨hinv, hpost h hmore⟩
  · exact fun fault h hmore _ => herror (.failed fault) h hmore

theorem ends_writeAll {path : FilePath} {bytes : Bytes} (hinv : inv disk)
    (hput : ∀ data, inv (disk.put path data))
    (hwritten : ∀ h, (DiskFaulted history → DiskFaulted h) → post (.ok ()) h (disk.put path bytes))
    (herror : ∀ error data h, (DiskFaulted history → DiskFaulted h) →
      post (.error error) h (disk.put path data)) :
    Publishing.Ends inv post (writeAll path bytes) history disk := by
  apply wp_then
  apply ends_perform hinv
  · exact fun h hmore => ⟨hput bytes, hwritten h hmore⟩
  · exact fun ⟨written, text⟩ h hmore _ =>
      ⟨hput (bytes.take written), herror (.failed text) _ h hmore⟩

theorem ends_hardLink {source target : FilePath} (hinv : inv disk)
    (hlinked : disk.entries source ≠ none → disk.entries target = none →
      inv (disk.link source target) ∧
      ∀ h, (DiskFaulted history → DiskFaulted h) → post (.ok ()) h (disk.link source target))
    (herror : ∀ error h, (DiskFaulted history → DiskFaulted h) → post (.error error) h disk) :
    Publishing.Ends inv post (hardLink source target) history disk := by
  apply wp_then
  apply ends_perform hinv
  · intro h hmore
    change Program.wp _ _ _ (if (disk.entries source).isNone then _ else _) h disk
    split
    · exact herror .notFound h hmore
    · rename_i hsource
      change Program.wp _ _ _ (if (disk.entries target).isSome then _ else _) h disk
      split
      · exact herror .alreadyExists h hmore
      · rename_i htarget
        rw [Option.isNone_iff_eq_none] at hsource
        obtain ⟨hinv, hpost⟩ := hlinked hsource (Option.not_isSome_iff_eq_none.mp htarget)
        exact ⟨hinv, hpost h hmore⟩
  · exact fun fault h hmore _ => herror (.failed fault) h hmore

theorem ends_removeFile {path : FilePath}
    {post : Unit → Assertion (Disk UInt8) DiskCall DiskCall.Reply Empty} (hinv : inv disk)
    (hremove : inv (disk.remove path))
    (hpost : ∀ h, (DiskFaulted history → DiskFaulted h) →
      post () h disk ∧ post () h (disk.remove path)) :
    Publishing.Ends inv post (removeFile path) history disk := by
  apply wp_then
  apply ends_perform hinv
  · exact fun h hmore => ⟨hremove, (hpost h hmore).2⟩
  · exact fun _ h hmore _ => (hpost h hmore).1

/-- What is read is what is there; without a fault, what is not read is not there. -/
theorem ends_readRegular {path : FilePath} {maxBytes : Nat}
    {post : Result Bytes → Assertion (Disk UInt8) DiskCall DiskCall.Reply Empty} (hinv : inv disk)
    (hread : ∀ bytes h, (DiskFaulted history → DiskFaulted h) → disk.Holds path bytes →
      post (.ok bytes) h disk)
    (herror : ∀ error h, (DiskFaulted history → DiskFaulted h) → error.details = none →
      (DiskFaulted h ∨ ∀ bytes, bytes.length ≤ maxBytes → ¬disk.Holds path bytes) →
      post (.error error) h disk) :
    Publishing.Ends inv post (readRegular path maxBytes) history disk := by
  apply wp_then
  apply ends_perform hinv
  · intro h hmore
    change post (regularBytes disk path maxBytes) h disk
    unfold regularBytes
    split
    · rename_i hentry
      apply herror _ h hmore rfl
      right
      intro bytes _ hholds
      obtain ⟨inode, hfile, _⟩ := Disk.holds_iff.mp hholds
      rw [hentry] at hfile
      cases hfile
    · rename_i hentry
      apply herror _ h hmore rfl
      right
      intro bytes _ hholds
      obtain ⟨inode, hfile, _⟩ := Disk.holds_iff.mp hholds
      rw [hentry] at hfile
      cases hfile
    · rename_i inode hentry
      by_cases hsize : (disk.contents inode).length ≤ maxBytes
      · have hok : ensure (decide ((disk.contents inode).length ≤ maxBytes)) channelFileInvalid =
            .ok () := ensure_eq_ok_iff.mpr (decide_eq_true hsize)
        rw [hok]
        exact hread _ h hmore (Disk.holds_iff.mpr ⟨inode, hentry, rfl⟩)
      · have herr : ensure (decide ((disk.contents inode).length ≤ maxBytes)) channelFileInvalid =
            .error channelFileInvalid := by
          rw [ensure, decide_eq_false hsize]
          rfl
        rw [herr]
        apply herror _ h hmore rfl
        right
        intro bytes hlength hholds
        obtain ⟨other, hfile, rfl⟩ := Disk.holds_iff.mp hholds
        rw [hentry] at hfile
        cases hfile
        exact hsize hlength
  · intro fault h hmore hfault
    apply herror _ h hmore
    · cases fault <;> rfl
    · exact .inl hfault

end Calls

/-- What a publish that reports an error has come to. -/
structure PublishRefused (start : Disk UInt8) (output : FileOutput) (error : PublishError)
    (history : List DiskEvent) (disk : Disk UInt8) : Prop where
  keeps : start.Keeps IsTemporary disk
  beforeLink : ∀ cause, error = .beforeLink cause → start.SameNames IsTemporary disk
  visible : ∀ cause, error = .visible cause → cause.details = none
  missed : output.bytes.length ≤ output.maxBytes →
    DiskFaulted history ∨ ¬disk.Holds output.path output.bytes

structure Published (start : Disk UInt8) (output : FileOutput) (disk : Disk UInt8) : Prop where
  keeps : start.Keeps IsTemporary disk
  holds : disk.Holds output.path output.bytes

/-- What a publish may come to. -/
def Ended (start : Disk UInt8) (output : FileOutput) :
    Except PublishError Unit → Assertion (Disk UInt8) DiskCall DiskCall.Reply Empty
  | .ok () => fun _ disk => Published start output disk
  | .error error => PublishRefused start output error

/-- Nothing shows yet of the output that is written under a temporary name. -/
structure Hidden (start disk : Disk UInt8) : Prop where
  keeps : start.Keeps IsTemporary disk
  names : start.SameNames IsTemporary disk

section Stages
variable {start disk : Disk UInt8} {output : FileOutput} {history h : List DiskEvent}
  {temp : FilePath} {cause : AppError}

/-- An output that is not there at the start, as far as can be seen. -/
def Missed (start : Disk UInt8) (output : FileOutput) (history : List DiskEvent) : Prop :=
  output.bytes.length ≤ output.maxBytes →
    DiskFaulted history ∨ ¬start.Holds output.path output.bytes

theorem Missed.more (hmissed : Missed start output history)
    (hmore : DiskFaulted history → DiskFaulted h) : Missed start output h :=
  fun hsize => (hmissed hsize).imp_left hmore

theorem Hidden.refused (hhidden : Hidden start disk) (hlasting : ¬IsTemporary output.path)
    (hmissed : Missed start output h) : PublishRefused start output (.beforeLink cause) h disk where
  keeps := hhidden.keeps
  beforeLink _ _ := hhidden.names
  visible _ heq := by cases heq
  missed hsize := by
    rw [Disk.holds_of_at_eq (hhidden.names.at_eq hhidden.keeps hlasting)]
    exact hmissed hsize

theorem Hidden.refused_visible (hhidden : Hidden start disk) (huntagged : cause.details = none)
    (hmissed : output.bytes.length ≤ output.maxBytes →
      DiskFaulted h ∨ ¬disk.Holds output.path output.bytes) :
    PublishRefused start output (.visible cause) h disk where
  keeps := hhidden.keeps
  beforeLink _ heq := by cases heq
  visible _ heq := by
    cases heq
    exact huntagged
  missed := hmissed

theorem ends_ensureSameOutput (hhidden : Hidden start disk) :
    Publishing.Ends (start.Keeps IsTemporary) (Ended start output)
      (ensureSameOutput output.path output.bytes output.maxBytes).run history disk := by
  apply wp_then
  apply ends_readRegular hhidden.keeps
  · intro existing h _ hholds
    change Ended start output (if existing = output.bytes then _ else _) h disk
    split
    · rename_i heq
      exact ⟨hhidden.keeps, heq ▸ hholds⟩
    · rename_i hne
      exact hhidden.refused_visible rfl fun _ => .inr fun hsame => hne (hsame.unique hholds)
  · intro error h _ huntagged hunread
    exact hhidden.refused_visible huntagged fun hsize => hunread.imp_right fun hno => hno _ hsize

/-- The staged file holds the output, and is of no use to anything that was there before. -/
def StagedFile (start : Disk UInt8) (temp : FilePath) (disk : Disk UInt8) (data : Bytes) : Prop :=
  ∃ inode, disk.entries temp = some (.file inode) ∧ start.nextInode ≤ inode ∧
    disk.contents inode = data

theorem ends_linkOutput (hhidden : Hidden start disk)
    (hstaged : StagedFile start temp disk output.bytes) (hlasting : ¬IsTemporary output.path)
    (hmissed : Missed start output history) :
    Publishing.Ends (start.Keeps IsTemporary) (Ended start output)
      (linkOutput temp output.path output.bytes output.maxBytes).run history disk := by
  obtain ⟨inode, hentry, hnew, hdata⟩ := hstaged
  apply ends_seq
  apply wp_then
  apply ends_hardLink hhidden.keeps
  · intro _ hfree
    have hkeeps := hhidden.keeps.link hentry hfree
    refine ⟨hkeeps, fun h _ => ⟨hkeeps, ?_⟩⟩
    rw [Disk.holds_iff]
    refine ⟨inode, ?_, ?_⟩
    · rw [Disk.link_entries disk hentry]
      exact Function.update_self ..
    · rw [Disk.link_contents]
      exact hdata
  · intro error h hmore
    have hrefused (cause : AppError) : PublishRefused start output (.beforeLink cause) h disk :=
      hhidden.refused hlasting (hmissed.more hmore)
    cases error with
    | alreadyExists => exact ends_ensureSameOutput hhidden
    | notFound => exact hrefused _
    | failed text => exact hrefused _

theorem ends_syncDir {parent : String} (hpublished : Published start output disk) :
    Publishing.Ends (start.Keeps IsTemporary) (Ended start output)
      (io .visible "sync channel output directory" (syncDir parent)).run history disk := by
  apply ends_io
  apply ends_checked hpublished.keeps
  · exact fun _ _ => hpublished
  · intro error h _ hfault
    exact
      { keeps := hpublished.keeps
        beforeLink := fun _ heq => nomatch heq
        visible := fun _ heq => by
          cases heq
          rfl
        missed := fun _ => .inl hfault }

theorem ends_stageOutput {parent : String} (htemp : IsTemporary temp)
    (hlasting : ¬IsTemporary output.path) (hmissed : Missed start output history) :
    Publishing.Ends (start.Keeps IsTemporary) (Ended start output)
      (stageOutput temp output.path parent output.bytes output.maxBytes).run history start := by
  have hkeeps : start.Keeps IsTemporary start := .refl _ _
  have hstart : Hidden start start := ⟨hkeeps, .refl _ _⟩
  apply ends_seq
  apply ends_io
  apply ends_createNew hkeeps
  · intro _
    have hcreated : Hidden start (start.create temp) :=
      ⟨hkeeps.create htemp, hstart.names.create htemp⟩
    have hentry : (start.create temp).entries temp = some (.file start.nextInode) :=
      Disk.create_entries_self start temp
    have hput (data : Bytes) : Hidden start ((start.create temp).put temp data) :=
      ⟨hcreated.keeps.put hentry (Nat.le_refl _) data, hcreated.names.put temp data⟩
    refine ⟨hcreated.keeps, fun h hmore => ?_⟩
    have hmissed := hmissed.more hmore
    apply ends_seq
    apply ends_io
    apply ends_writeAll hcreated.keeps (fun data => (hput data).keeps)
    · intro h hmore
      have hmissed := hmissed.more hmore
      apply ends_seq
      apply ends_io
      apply ends_checked (hput output.bytes).keeps
      · intro h hmore
        have hstaged : StagedFile start temp ((start.create temp).put temp output.bytes)
            output.bytes := by
          refine ⟨start.nextInode, ?_, Nat.le_refl _, ?_⟩
          · rw [Disk.put_entries, hentry]
          · rw [Disk.put_of_file _ hentry]
            exact Function.update_self ..
        apply ends_seq
        apply Program.wp_mono (ends_linkOutput (hput _) hstaged hlasting (hmissed.more hmore))
        · intro result history disk hended
          cases result with
          | ok _ => exact ends_syncDir hended
          | error error => exact hended
        · exact fun _ _ _ h => h
      · exact fun error h hmore _ => (hput _).refused hlasting (hmissed.more hmore)
    · exact fun error data h hmore => (hput data).refused hlasting (hmissed.more hmore)
  · exact fun error h hmore => hstart.refused hlasting (hmissed.more hmore)

theorem Ended.remove {result : Except PublishError Unit} (hended : Ended start output result h disk)
    (htemp : IsTemporary temp) (hlasting : ¬IsTemporary output.path) :
    Ended start output result h (disk.remove temp) := by
  have hsame : disk.SameNames IsTemporary (disk.remove temp) :=
    (Disk.SameNames.refl _ _).remove htemp
  have hat := hsame.at_eq ((Disk.Keeps.refl _ _).remove htemp) hlasting
  cases result with
  | ok value => exact ⟨hended.keeps.remove htemp, (Disk.holds_of_at_eq hat).mpr hended.holds⟩
  | error error =>
    exact
      { keeps := hended.keeps.remove htemp
        beforeLink := fun cause heq => (hended.beforeLink cause heq).remove htemp
        visible := hended.visible
        missed := by
          rw [Disk.holds_of_at_eq hat]
          exact hended.missed }

theorem Ended.more {result : Except PublishError Unit}
    (hended : Ended start output result history disk)
    (hmore : DiskFaulted history → DiskFaulted h) : Ended start output result h disk := by
  cases result with
  | ok value => exact hended
  | error error =>
    exact { hended with missed := fun hsize => (hended.missed hsize).imp_left hmore }

/-- What a publish keeps of a disk, and what its result says of the output. -/
theorem ends_publishStaged {name : TempName} (hlasting : ¬IsTemporary output.path) :
    Publishing.Ends (start.Keeps IsTemporary) (Ended start output)
      (publishStaged name output.path output.bytes output.maxBytes) history start := by
  have hkeeps : start.Keeps IsTemporary start := .refl _ _
  have hstart : Hidden start start := ⟨hkeeps, .refl _ _⟩
  apply wp_then
  apply ends_readRegular hkeeps
  · intro existing h _ hholds
    change Ended start output (if existing = output.bytes then _ else _) h start
    split
    · rename_i heq
      exact ⟨hkeeps, heq ▸ hholds⟩
    · rename_i hne
      exact hstart.refused_visible rfl fun _ => .inr fun hsame => hne (hsame.unique hholds)
  · intro error h _ _ hunread
    have hmissed : Missed start output h := fun hsize => hunread.imp_right fun hno => hno _ hsize
    cases hparent : output.path.directory with
    | none => exact hstart.refused hlasting hmissed
    | some parent =>
      apply wp_then
      apply ends_checked hkeeps
      · intro h hmore
        have htemp : IsTemporary ⟨some parent, name.text⟩ := ⟨name, rfl⟩
        apply wp_then
        apply Program.wp_mono (ends_stageOutput htemp hlasting (hmissed.more hmore))
        · intro result history disk hended
          have hkept : start.Keeps IsTemporary disk := by
            cases result with
            | ok value => exact hended.keeps
            | error error => exact hended.keeps
          apply wp_then
          apply ends_removeFile hkept (hkept.remove htemp)
          intro h hmore
          exact ⟨hended.more hmore, (hended.more hmore).remove htemp hlasting⟩
        · exact fun _ _ _ h => h
      · exact fun error h hmore _ => hstart.refused hlasting (hmissed.more hmore)

end Stages

def IsOutputPath (path : FilePath) : Prop := ∃ messageId : String, path.name = messageId ++ ".json"

/-- The error says that no call was made. -/
def AppError.SaysNotStarted (error : AppError) : Prop :=
  ∃ details, error.details = some details ∧ details.remoteCallsStarted = some false

/-- An attempt to publish something, cut off or not. -/
def PublishAttempt (disk : Disk UInt8) (events : List DiskEvent) (disk' : Disk UInt8) : Prop :=
  ∃ outputs temp prepared outcome, Exec (publish outputs temp prepared) disk events outcome disk'

theorem outputPath_lasting {path : FilePath} (h : IsOutputPath path) : ¬IsTemporary path := by
  obtain ⟨messageId, hname⟩ := h
  exact not_isTemporary_of_json hname

theorem FileOutputs.outputOf_path {outputs : FileOutputs} {prepared : PreparedOutbound}
    {output : FileOutput} (h : outputs.outputOf prepared = .ok output) :
    IsOutputPath output.path := by
  unfold outputOf at h
  split at h
  · cases h
  · obtain ⟨outbox, _, h⟩ := Result.bind_ok h
    split at h
    · cases h
    · obtain ⟨stored, _, h⟩ := Result.bind_ok h
      cases h
      exact ⟨prepared.messageId, rfl⟩

section Attempts
variable {outputs : FileOutputs} {temp : TempName} {prepared : PreparedOutbound}
  {disk disk' : Disk UInt8} {events : List DiskEvent}

theorem ended_of_publish {output : FileOutput} {outcome : Outcome Empty (Result Unit)}
    (haccepted : outputs.outputOf prepared = .ok output)
    (h : Exec (publish outputs temp prepared) disk events outcome disk') :
    disk.Keeps IsTemporary disk' ∧ ∀ result, outcome = .returned result →
      ∃ staged, result = staged.mapError PublishError.toError ∧
        Ended disk output staged events disk' := by
  have hlasting := outputPath_lasting (outputs.outputOf_path haccepted)
  have hends : Publishing.Ends (disk.Keeps IsTemporary)
      (fun result history disk' => ∃ staged, result = staged.mapError PublishError.toError ∧
        Ended disk output staged history disk') (publish outputs temp prepared) [] disk := by
    unfold publish
    rw [haccepted]
    apply wp_then
    apply Program.wp_mono (ends_publishStaged hlasting)
    · exact fun staged _ _ hended => ⟨staged, rfl, hended⟩
    · exact fun _ _ _ h => h
  obtain ⟨hkeeps, hmeets⟩ := Program.wp_sound h (Disk.Keeps.refl _ _) hends
  refine ⟨hkeeps, ?_⟩
  rintro result rfl
  exact hmeets

theorem untouched_of_publish {cause : AppError} {outcome : Outcome Empty (Result Unit)}
    (hrefused : outputs.outputOf prepared = .error cause)
    (h : Exec (publish outputs temp prepared) disk events outcome disk') :
    disk' = disk ∧ ∀ result, outcome = .returned result →
      result = .error (cause.withDetails callsNotStarted) := by
  unfold publish at h
  rw [hrefused] at h
  obtain ⟨hdisk, _, hresult⟩ := Exec.of_ret h
  exact ⟨hdisk, hresult⟩

theorem PublishAttempt.keeps (h : PublishAttempt disk events disk') :
    disk.Keeps IsTemporary disk' := by
  obtain ⟨outputs, temp, prepared, outcome, h⟩ := h
  cases haccepted : outputs.outputOf prepared with
  | error cause =>
    rw [(untouched_of_publish haccepted h).1]
    exact .refl _ _
  | ok output => exact (ended_of_publish haccepted h).1

theorem keeps_of_attempts (h : Run PublishAttempt disk events disk') :
    disk.Keeps IsTemporary disk' := by
  induction h with
  | start => exact .refl _ _
  | next _ hattempt ih => exact ih.trans hattempt.keeps

theorem Ended.ok_iff {start : Disk UInt8} {output : FileOutput}
    {staged : Except PublishError Unit} (hended : Ended start output staged events disk')
    (hsize : output.bytes.length ≤ output.maxBytes) (hfaultless : ¬DiskFaulted events) :
    staged = .ok () ↔ disk'.Holds output.path output.bytes := by
  cases staged with
  | ok value => exact ⟨fun _ => hended.holds, fun _ => rfl⟩
  | error error =>
    constructor
    · intro heq
      cases heq
    · intro hholds
      rcases hended.missed hsize with hfault | hmissing
      · exact (hfaultless hfault).elim
      · exact (hmissing hholds).elim

/-- Outputs that are there stay as they are. Success means that the output holds the message, and
means nothing less where no call fails; an error that says so has let nothing show. -/
theorem publish_once :
    (∀ disk events disk', Run PublishAttempt disk events disk' →
      ∀ path found, IsOutputPath path → disk.at_ path = some found →
        disk'.at_ path = some found) ∧
    ∀ outputs temp prepared disk events result disk',
      Exec (publish outputs temp prepared) disk events (.returned result) disk' →
      (result = .ok () → ∃ output, outputs.outputOf prepared = .ok output ∧
        disk'.Holds output.path output.bytes) ∧
      (∀ output, outputs.outputOf prepared = .ok output →
        output.bytes.length ≤ output.maxBytes → ¬DiskFaulted events →
        (result = .ok () ↔ disk'.Holds output.path output.bytes)) ∧
      ∀ error, result = .error error → error.SaysNotStarted →
        ∀ path, IsOutputPath path → disk'.at_ path = disk.at_ path := by
  constructor
  · intro disk events disk' hrun path found hpath hat
    exact (keeps_of_attempts hrun).at_eq (outputPath_lasting hpath) hat
  intro outputs temp prepared disk events result disk' h
  cases haccepted : outputs.outputOf prepared with
  | error cause =>
    obtain ⟨rfl, hresult⟩ := untouched_of_publish haccepted h
    refine ⟨?_, ?_, ?_⟩
    · intro hok
      cases hok.symm.trans (hresult result rfl)
    · intro output heq
      cases heq
    · exact fun _ _ _ _ _ => rfl
  | ok output =>
    obtain ⟨hkeeps, hreturned⟩ := ended_of_publish haccepted h
    obtain ⟨staged, rfl, hended⟩ := hreturned result rfl
    rw [mapError_eq_ok_iff]
    refine ⟨?_, ?_, ?_⟩
    · rintro rfl
      exact ⟨output, rfl, hended.holds⟩
    · intro other heq hsize hfaultless
      cases heq
      exact hended.ok_iff hsize hfaultless
    · rintro error heq ⟨details, hdetails, hstarted⟩ path hpath
      cases staged with
      | ok value => cases heq
      | error cause =>
        cases heq
        cases cause with
        | beforeLink cause =>
          have hsame := hended.beforeLink cause rfl
          exact hsame.at_eq hkeeps (outputPath_lasting hpath)
        | visible cause =>
          change cause.details = some details at hdetails
          rw [hended.visible cause rfl] at hdetails
          cases hdetails

end Attempts

def inquiryEvidence : Bytes :=
  ("\x7b\"source_id\":\"inquiries\",\"direction\":\"outbound\"," ++
    "\"timestamp_rfc3339\":\"2026-10-24T00:00:00Z\"," ++
    "\"content_json\":\"\x7b\x7d\"\x7d").toUTF8.data.toList

def inquiries : FileOutputs where
  filesEnabled := true
  sources sourceId :=
    if sourceId = "inquiries" then some ⟨"/srv/mail/output", 1048576, none⟩ else none
  decode raw :=
    if raw = inquiryEvidence then
      .ok { sourceId := "inquiries", direction := "outbound"
            timestampRfc3339 := "2026-10-24T00:00:00Z", contentJson := [0x7b, 0x7d] }
    else .error (storeError "parse native message evidence: expected value at line 1 column 1")

def inquiryReply : PreparedOutbound where
  messageId := "message_out"
  raw := inquiryEvidence
  delivery := .file { channel := "file", sourceId := "inquiries", conversationId := "inquiry/1" }

def inquiryPath : FilePath := ⟨some "/srv/mail/output", "message_out" ++ ".json"⟩

def firstTemp : TempName := ⟨4711, 1792800000000000000, 0⟩

def emptyDisk : Disk UInt8 := ⟨fun _ => none, fun _ => [], 0, fun _ _ h => nomatch h⟩

/-- A file system where everything works. -/
def faultless (_ : Unit) (call : DiskCall) : Except Empty call.Reply × Unit := (.ok none, ())

/-- A file system that cannot sync directories. -/
def directoryUnsynced (_ : Unit) : (call : DiskCall) → Except Empty call.Reply × Unit
  | .syncDir _ => (.ok (some "Input/output error (os error 5)"), ())
  | _ => (.ok none, ())

/-- A file system that cannot create directories. -/
def directoryMissing (_ : Unit) : (call : DiskCall) → Except Empty call.Reply × Unit
  | .createDirAll _ => (.ok (some "Not a directory (os error 20)"), ())
  | _ => (.ok none, ())

/-- A reply is published, the attempt after it changes nothing, and one that fails early lets
nothing show. -/
theorem publish_once_inquiry :
    (∃ events disk', Exec (publish inquiries firstTemp inquiryReply) emptyDisk events
        (.returned (.ok ())) disk' ∧ disk'.Holds inquiryPath [0x7b, 0x7d] ∧
      ∀ outputs temp prepared more outcome disk'',
        Exec (publish outputs temp prepared) disk' more outcome disk'' →
        disk''.Holds inquiryPath [0x7b, 0x7d]) ∧
    ∃ events error disk', Exec (publish inquiries firstTemp inquiryReply) emptyDisk events
        (.returned (.error error)) disk' ∧ error.SaysNotStarted ∧ disk'.at_ inquiryPath = none := by
  constructor
  · obtain ⟨events, hexec, hanswered⟩ := Program.run_exec_answered faultless
      (publish inquiries firstTemp inquiryReply) emptyDisk ()
    have hfaultless : ¬DiskFaulted events := by
      rintro ⟨event, hmem, fault, hreply⟩
      obtain ⟨_, hanswer⟩ := hanswered event hmem
      rw [hreply] at hanswer
      cases hanswer
    have hiff := (publish_once.2 _ _ _ _ _ _ _ hexec).2.1 ⟨inquiryPath, [0x7b, 0x7d], 1048576⟩ rfl
      (by decide) hfaultless
    have hholds := hiff.mp rfl
    refine ⟨events, _, hexec, hholds, ?_⟩
    intro outputs temp prepared more outcome disk'' hretry
    obtain ⟨inode, hat⟩ := hholds
    exact ⟨inode, publish_once.1 _ ([] ++ more) _
      (.next .start ⟨outputs, temp, prepared, outcome, hretry⟩) _ _ ⟨"message_out", rfl⟩ hat⟩
  · obtain ⟨events, hexec⟩ := Program.run_exec directoryMissing
      (publish inquiries firstTemp inquiryReply) emptyDisk ()
    have htagged : AppError.SaysNotStarted ((AppError.io "create channel output directory"
        "Not a directory (os error 20)").withDetails callsNotStarted) := ⟨_, rfl, rfl⟩
    exact ⟨events, _, _, hexec, htagged,
      (publish_once.2 _ _ _ _ _ _ _ hexec).2.2 _ rfl htagged _ ⟨"message_out", rfl⟩⟩

/-- A publish that fails to sync the directory reports an error, and the output is there. -/
theorem not_publish_succeeds_iff :
    ¬∀ outputs temp prepared disk events result disk',
      Exec (publish outputs temp prepared) disk events (.returned result) disk' →
      (result = .ok () ↔ ∃ output, outputs.outputOf prepared = .ok output ∧
        disk'.Holds output.path output.bytes) := by
  intro hclaim
  obtain ⟨events, hexec⟩ := Program.run_exec directoryUnsynced
    (publish inquiries firstTemp inquiryReply) emptyDisk ()
  have hiff := hclaim _ _ _ _ _ _ _ hexec
  have hok := hiff.mpr ⟨⟨inquiryPath, [0x7b, 0x7d], 1048576⟩, rfl, 0, rfl⟩
  cases hok

end AgentFirstMail
