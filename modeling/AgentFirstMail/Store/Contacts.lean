import AgentFirstMail.Store.Process

namespace AgentFirstMail
open Effect Command
open Text (isBlank trim foldAscii)

def toAsciiLowercase (text : String) : String := String.ofList (foldAscii text)

/-- How an address is compared. -/
def normalizedEmail (email : String) : String := toAsciiLowercase (trimmed email)

section Uids

def isDigits (text : List Char) : Bool := text.all (·.isDigit)

/-- A letter, a date and a number of at least three digits. -/
def validUid (letter : Char) (value : String) : Bool :=
  match value.toList with
  | first :: digits => first == letter && 11 ≤ digits.length && isDigits digits
  | [] => false

theorem not_mem_of_validUid {letter other : Char} {uid : String} (hletter : letter ≠ other)
    (hdigit : other.isDigit = false) (h : validUid letter uid = true) : other ∉ uid.toList := by
  intro hmem
  rw [validUid] at h
  split at h
  · rename_i first digits huid
    simp only [Bool.and_eq_true, beq_iff_eq, isDigits, List.all_eq_true] at h
    obtain ⟨⟨rfl, _⟩, hdigits⟩ := h
    rw [huid, List.mem_cons] at hmem
    rcases hmem with rfl | hmem
    · exact hletter rfl
    · cases hdigit.symm.trans (hdigits _ hmem)
  · cases h

def validateContactUid (value : String) : Result Unit :=
  ensure (validUid 'p' value) (invalidRequest "invalid contact_uid: expected pYYYYMMDDNNN")

/-- What stands before the first hyphen. -/
def firstSegment (text : String) : String := String.ofList (text.toList.takeWhile (· != '-'))

def contactUidFromFileName (stem : String) : Option String :=
  let uid := firstSegment stem
  if validUid 'p' uid then some uid else none

def contactFileName (humanSlug : String → String) (uid displayName : String) : String :=
  s!"{uid}-{humanSlug displayName}"

/-- What uids are made for. -/
inductive UidKind where
  | case | notification | contact

def UidKind.letter : UidKind → Char
  | case => 'c'
  | notification => 'n'
  | contact => 'p'

/-- The largest number of 64 bits. -/
def maxUint64 : Nat := 18446744073709551615

/-- What follows the letter and the date. -/
def uidNumber (uid : String) : Nat := Nat.ofDigitChars 10 (uid.toList.drop 9) 0

def uidOfDate (kind : UidKind) (date uid : String) : Bool :=
  validUid kind.letter uid && (uid.toList.drop 1).take 8 == date.toList

/-- The number of a uid of a date, or zero; a number of more than 64 bits does not parse. -/
def uidSequence (kind : UidKind) (date uid : String) : Nat :=
  if uidOfDate kind date uid && decide (uidNumber uid ≤ maxUint64) then uidNumber uid else 0

/-- At least three digits. -/
def paddedNumber (number : Nat) : List Char :=
  let digits := Nat.toDigits 10 number
  List.replicate (3 - digits.length) '0' ++ digits

/-- The addition of a checked build, which panics where one that is not checked starts again at
zero. -/
def arithmeticOverflow : AppError :=
  { errorCode := "panic", message := "attempt to add with overflow" }

/-- The uid that follows the largest one of its date. -/
def nextUidForDate (kind : UidKind) (date : String) (existing : List String) : Result String := do
  ensure (date.length == 8 && isDigits date.toList) (invalidRequest s!"invalid UID date: {date}")
  let maxSequence := (existing.map (uidSequence kind date)).foldl max 0
  ensure (decide (maxSequence < maxUint64)) arithmeticOverflow
  return String.ofList (kind.letter :: date.toList ++ paddedNumber (maxSequence + 1))

end Uids

/-- What the contact commands use besides: the local date, the reason policy and default group of
the configuration, the body of a new contact, the views that show contacts once their index was
built, which write nothing that is read back, and the `From` headers of the messages of a
source. -/
structure ContactHost (ι : Type) extends Host where
  localDate : String
  reasonRequired : Bool
  defaultGroup : String
  defaultBody : String → String → ContactFrontmatter → Result String
  refreshContactViews : Workspace → Result Unit
  fromHeaders : ι → Result (List String)

def reasonRequired : AppError :=
  { errorCode := "reason_required"
    message := "add --reason \"<why>\" to record why this mutation is needed" }

def checkedReason (required : Bool) (reason : Option String) : Result (Option String) :=
  let reason := (reason.map trimmed).filter (· != "")
  match required, reason with
  | true, none => .error reasonRequired
  | _, reason => .ok reason

section Checks
variable {ι : Type} (host : ContactHost ι)

/-- A reference is a uid, or a uid with a name after a hyphen. -/
def parseContactRef (value : String) : Result String := do
  validateId host.toHost "contact_ref" value
  let uid := firstSegment value
  ensure (value.toList != (uid ++ "-").toList)
    (invalidRequest "invalid contact_ref: suffix must not be empty")
  ensure (uid.toList.head? == some 'p')
    (invalidRequest "invalid contact_ref: expected pYYYYMMDDNNN")
  validateContactUid uid
  return uid

end Checks

structure ContactEntry where
  uid : String
  file : ContactFile
deriving DecidableEq

structure ContactIndexDiagnostic where
  code : String
  message : String
  path : String
  contactUid : Option String := none
  email : Option String := none
  conflictingContactUids : List String := []

structure ContactEmailIndex where
  map : Std.ExtTreeMap String ContactFrontmatter := ∅
  diagnostics : List ContactIndexDiagnostic := []

namespace ContactEmailIndex

def report (index : ContactEmailIndex) (diagnostic : ContactIndexDiagnostic) : ContactEmailIndex :=
  { index with diagnostics := index.diagnostics ++ [diagnostic] }

/-- An address that another contact holds already, or the same one a second time, is reported. -/
def addEmail (path : String) (frontmatter : ContactFrontmatter) (index : ContactEmailIndex)
    (email : String) : ContactEmailIndex :=
  let normalized := normalizedEmail email
  if normalized = "" then index
  else match index.map[normalized]? with
    | some existing => index.report {
        code := "contact_email_duplicate"
        message := (s!"email {normalized} is assigned to contacts {existing.contactUid} and " ++
          frontmatter.contactUid)
        path, contactUid := some frontmatter.contactUid, email := some normalized
        conflictingContactUids := [existing.contactUid, frontmatter.contactUid] }
    | none => { index with map := index.map.insert normalized frontmatter }

def checkUid (entry : ContactEntry) (frontmatter : ContactFrontmatter)
    (index : ContactEmailIndex) : ContactEmailIndex :=
  if frontmatter.contactUid = entry.uid then index
  else index.report {
    code := "contact_uid_mismatch"
    message := (s!"contact file name uid {entry.uid} does not match frontmatter uid " ++
      frontmatter.contactUid)
    path := entry.file.path, contactUid := some frontmatter.contactUid
    conflictingContactUids := [entry.uid, frontmatter.contactUid] }

def addEntry (index : ContactEmailIndex) (entry : ContactEntry) : ContactEmailIndex :=
  match entry.file.content with
  | .invalid message => index.report {
      code := "contact_invalid", message, path := entry.file.path, contactUid := some entry.uid }
  | .parsed frontmatter _ =>
    frontmatter.emails.foldl (addEmail entry.file.path frontmatter)
      (checkUid entry frontmatter index)

end ContactEmailIndex

def contactIndexInvalid : AppError :=
  { errorCode := "contact_index_invalid"
    message := "contact index has invalid or conflicting contact files" }

namespace Workspace
variable (w : Workspace)

/-- The contact files, in the order of their uids. -/
def allActiveContactEntries : List ContactEntry :=
  (w.contacts.filterMap fun file =>
    (contactUidFromFileName file.stem).map fun uid => ⟨uid, file⟩).insertionSort (·.uid ≤ ·.uid)

def buildContactEmailIndex : ContactEmailIndex :=
  w.allActiveContactEntries.foldl ContactEmailIndex.addEntry {}

def strictContactEmailMap : Result (Std.ExtTreeMap String ContactFrontmatter) := do
  let index := w.buildContactEmailIndex
  ensure index.diagnostics.isEmpty contactIndexInvalid
  return index.map

def nextContactUidForDate (date : String) : Result String :=
  nextUidForDate .contact date (w.allActiveContactEntries.map (·.uid))

def activeContactNotFound (uid : String) : AppError :=
  { errorCode := "not_found", message := s!"active contact {uid} not found" }

def findActiveContact (uid : String) : Result ContactFile :=
  match w.allActiveContactEntries.find? (·.uid == uid) with
  | some entry => .ok entry.file
  | none => .error (activeContactNotFound uid)

/-- Replaces the file at a place, or adds it. -/
def writeContact (file : ContactFile) : Workspace :=
  { w with contacts :=
      if w.contacts.any (·.liesAt file.group file.stem) then
        w.contacts.map fun other => if other.liesAt file.group file.stem then file else other
      else w.contacts ++ [file] }

def removeContact (group stem : String) : Workspace :=
  { w with contacts := w.contacts.filter fun file => !file.liesAt group stem }

/-- Moves a file to another place, over what lies there. -/
def renameContact (file : ContactFile) (group stem : String) : Workspace :=
  { w with contacts :=
      (w.contacts.filter fun other =>
        other.liesAt file.group file.stem || !other.liesAt group stem).map fun other =>
          if other.liesAt file.group file.stem then { other with group, stem } else other }

end Workspace

def emailConflict (email contactUid : String) : AppError :=
  { errorCode := "email_conflict"
    message := s!"email {email} is already assigned to contact {contactUid}" }

def assertEmailUniqueInMap (map : Std.ExtTreeMap String ContactFrontmatter) (email : String)
    (excludingUid : Option String) : Result Unit :=
  match map[normalizedEmail email]? with
  | some entry =>
    ensure (normalizedEmail email == "" || excludingUid == some entry.contactUid)
      (emailConflict email entry.contactUid)
  | none => .ok ()

def readContact (file : ContactFile) : Result (ContactFrontmatter × String) :=
  match file.content with
  | .parsed frontmatter notes => .ok (frontmatter, notes)
  | .invalid message =>
    .error { errorCode := "invalid_contact", message := s!"parse contact file: {message}" }

/-- The contacts that read as such. -/
def Workspace.activeContacts (w : Workspace) : List ContactFrontmatter :=
  w.allActiveContactEntries.filterMap fun entry => (readContact entry.file).toOption.map (·.1)

/-- A rendered body starts with text and ends with a newline. -/
def renderedBody (body : String) : String :=
  let body := String.ofList (body.toList.dropWhile Text.isWhitespace)
  if body.toList.getLast? == some '\n' then body else body ++ "\n"

/-- A file that is there keeps its body; a new one is rendered. -/
def writeContactMd (group stem : String) (frontmatter : ContactFrontmatter) (body : String) :
    Command Unit := do
  let w ← workspace
  let kept := w.contacts.any fun file => file.liesAt group stem &&
    (readContact file).toOption.any (·.2 == body)
  writeWorkspace (·.writeContact {
    group, stem, content := .parsed frontmatter (if kept then body else renderedBody body) })

/-- What a command reports of the contact it worked on. -/
structure ContactReport where
  contactUid : String
  displayName : Option String := none
  group : Option String := none
  email : Option String := none
  emails : Option (List String) := none
  contactPath : Option String := none
  changed : Option Bool := none
  notesPresent : Option Bool := none
deriving DecidableEq

structure ExtractReport where
  createdCount : Nat
  skippedCount : Nat
  createdUids : List String

def emailAddress (value : String) : String :=
  let text := trim value.toList
  match text.idxsOf '<' |>.getLast?, text.idxsOf '>' |>.getLast? with
  | some start, some finish =>
    if start < finish then
      toAsciiLowercase (String.ofList (trim ((text.take finish).drop (start + 1))))
    else toAsciiLowercase (String.ofList text)
  | _, _ => toAsciiLowercase (String.ofList text)

def extractFromDisplayName (fromHeader : String) : String :=
  let text := trim fromHeader.toList
  match text.idxsOf '<' |>.getLast?, text.idxsOf '>' |>.getLast? with
  | some start, some _ =>
    let name := trim (Text.trimMatches (· == '"') (trim (text.take start)))
    if name.isEmpty then String.ofList text else String.ofList name
  | _, _ => String.ofList text

/-- The name and the address of a sender, if there is an address. -/
def senderPair (fromHeader : String) : Option (String × String) :=
  let email := emailAddress fromHeader
  if email = "" then none else some (extractFromDisplayName fromHeader, email)

section Commands
variable {ι : Type} (host : ContactHost ι)

/-- The first of the views to be refreshed builds the index of all contacts anew. -/
def refreshViewsAfterContactChange : Command Unit := do
  let w ← workspace
  let _ ← Program.ofExcept w.strictContactEmailMap
  Program.ofExcept (host.refreshContactViews w)

/-- Takes the next uid of the date and writes a contact under it. -/
def createContactFile (group name : String) (frontmatter : String → ContactFrontmatter) :
    Command (ContactFrontmatter × String) := do
  let w ← workspace
  let uid ← Program.ofExcept (w.nextContactUidForDate host.localDate)
  let stem := contactFileName host.humanSlug uid name
  let body ← Program.ofExcept (host.defaultBody group stem (frontmatter uid))
  writeContactMd group stem (frontmatter uid) body
  return (frontmatter uid, stem)

def normalizedEmails (emails : List String) : List String :=
  (emails.map normalizedEmail).filter (· != "")

def contactCreate (params : NewContact) : Command ContactReport := do
  let reason ← Program.ofExcept (checkedReason host.reasonRequired params.reason)
  Program.ofExcept (validateName host.toHost "contact_name" params.name)
  let group := params.group.getD host.defaultGroup
  Program.ofExcept (validateId host.toHost "group" group)
  let emails := normalizedEmails params.emails
  let w ← workspace
  let index ← Program.ofExcept w.strictContactEmailMap
  Program.ofExcept (emails.forM fun email => assertEmailUniqueInMap index email none)
  let (frontmatter, stem) ← createContactFile host group params.name fun uid =>
    { contactUid := uid, displayName := params.name, emails, phones := params.phones
      organization := params.org.getD "", role := params.role.getD "", tags := params.tags
      createdRfc3339 := host.now, updatedRfc3339 := host.now }
  appendAuditEvent host.toHost "contact_created" [("contact", frontmatter.contactUid)] reason
  if !emails.isEmpty then refreshViewsAfterContactChange host
  return { contactUid := frontmatter.contactUid, displayName := some params.name
           group := some group, emails := some emails
           contactPath := some s!"contacts/{group}/{stem}.md" }

/-- The file and the content of an active contact. -/
def openContact (uid : String) : Command (ContactFile × ContactFrontmatter × String) := do
  let w ← workspace
  let file ← Program.ofExcept (w.findActiveContact uid)
  let (frontmatter, body) ← Program.ofExcept (readContact file)
  return (file, frontmatter, body)

def contactMove (contactRef newGroup : String) (reason : Option String) :
    Command ContactReport := do
  let reason ← Program.ofExcept (checkedReason host.reasonRequired reason)
  let uid ← Program.ofExcept (parseContactRef host contactRef)
  Program.ofExcept (validateId host.toHost "group" newGroup)
  let w ← workspace
  let file ← Program.ofExcept (w.findActiveContact uid)
  if file.group = newGroup then
    return { contactUid := uid, group := some newGroup, contactPath := some file.path
             changed := some false }
  else
    writeWorkspace (·.renameContact file newGroup file.stem)
    appendAuditEvent host.toHost "contact_moved" [("contact", uid)] reason
    return { contactUid := uid, group := some newGroup
             contactPath := some (ContactFile.path { file with group := newGroup })
             changed := some true }

/-- Edits the file first and moves it then. -/
def contactRename (contactRef newName : String) (reason : Option String) :
    Command ContactReport := do
  let reason ← Program.ofExcept (checkedReason host.reasonRequired reason)
  let uid ← Program.ofExcept (parseContactRef host contactRef)
  Program.ofExcept (validateName host.toHost "contact_name" newName)
  let (file, frontmatter, body) ← openContact uid
  let renamed := { frontmatter with displayName := newName, updatedRfc3339 := host.now }
  let stem := contactFileName host.humanSlug uid newName
  writeContactMd file.group file.stem renamed body
  if file.stem ≠ stem then writeWorkspace (·.renameContact file file.group stem)
  appendAuditEvent host.toHost "contact_renamed" [("contact", uid)] reason
  if !renamed.emails.isEmpty then refreshViewsAfterContactChange host
  return { contactUid := uid, displayName := some newName, group := some file.group
           contactPath := some s!"contacts/{file.group}/{stem}.md" }

def contactEmailAdd (contactRef email : String) (reason : Option String) :
    Command ContactReport := do
  let reason ← Program.ofExcept (checkedReason host.reasonRequired reason)
  let uid ← Program.ofExcept (parseContactRef host contactRef)
  let normalized := normalizedEmail email
  Program.ofExcept (ensure (normalized != "") (invalidRequest "email must not be empty"))
  let w ← workspace
  let index ← Program.ofExcept w.strictContactEmailMap
  Program.ofExcept (assertEmailUniqueInMap index normalized (some uid))
  let (file, frontmatter, body) ← openContact uid
  let held := frontmatter.emails.any (toAsciiLowercase · == normalized)
  let emails := if held then frontmatter.emails else frontmatter.emails ++ [normalized]
  if !held then
    writeContactMd file.group file.stem
      { frontmatter with emails, updatedRfc3339 := host.now } body
    refreshViewsAfterContactChange host
  appendAuditEvent host.toHost "contact_email_added" [("contact", uid)] reason
  return { contactUid := uid, email := some normalized, emails := some emails }

def contactEmailRemove (contactRef email : String) (reason : Option String) :
    Command ContactReport := do
  let reason ← Program.ofExcept (checkedReason host.reasonRequired reason)
  let uid ← Program.ofExcept (parseContactRef host contactRef)
  let normalized := normalizedEmail email
  let (file, frontmatter, body) ← openContact uid
  let emails := frontmatter.emails.filter (toAsciiLowercase · != normalized)
  if emails.length ≠ frontmatter.emails.length then
    writeContactMd file.group file.stem
      { frontmatter with emails, updatedRfc3339 := host.now } body
    refreshViewsAfterContactChange host
  appendAuditEvent host.toHost "contact_email_removed" [("contact", uid)] reason
  return { contactUid := uid, email := some normalized, emails := some emails }

def contactNotesPresent (uid : String) : AppError :=
  { errorCode := "contact_notes_present", message := s!"contact {uid} has body content" }

def contactDelete (contactRef : String) (allowNotes : Bool) (reason : Option String) :
    Command ContactReport := do
  let uid ← Program.ofExcept (parseContactRef host contactRef)
  let reason ← Program.ofExcept (checkedReason host.reasonRequired reason)
  let (file, frontmatter, body) ← openContact uid
  Program.ofExcept (ensure (isBlank body || allowNotes) (contactNotesPresent uid))
  writeWorkspace (·.removeContact file.group file.stem)
  appendAuditEvent host.toHost "contact_deleted" [("contact", uid)] reason
  if !frontmatter.emails.isEmpty then refreshViewsAfterContactChange host
  return { contactUid := uid, displayName := some frontmatter.displayName
           group := some file.group, contactPath := some file.path
           notesPresent := some (!isBlank body) }

/-- Creates a contact for every sender whose address no contact holds yet. -/
def extractSenders (group : String) :
    Std.ExtTreeMap String ContactFrontmatter → ExtractReport → List (String × String) →
      Command ExtractReport
  | _, report, [] => return report
  | index, report, (displayName, email) :: rest => do
    let email := toAsciiLowercase email
    if email ∈ index then
      extractSenders group index { report with skippedCount := report.skippedCount + 1 } rest
    else
      let name := if displayName.isEmpty then email else displayName
      let (frontmatter, _) ← createContactFile host group name fun uid =>
        { contactUid := uid, displayName := name, emails := [email]
          createdRfc3339 := host.now, updatedRfc3339 := host.now }
      appendAuditEvent host.toHost "contact_created" [("contact", frontmatter.contactUid)] none
      extractSenders group (index.insert email frontmatter) { report with
        createdCount := report.createdCount + 1
        createdUids := report.createdUids ++ [frontmatter.contactUid] } rest

def contactExtract (source : ι) (group : Option String) : Command ExtractReport := do
  let group := group.getD host.defaultGroup
  Program.ofExcept (validateId host.toHost "group" group)
  let headers ← Program.ofExcept (host.fromHeaders source)
  let w ← workspace
  let index ← Program.ofExcept w.strictContactEmailMap
  let report ← extractSenders host group index ⟨0, 0, []⟩ (headers.filterMap senderPair)
  if 0 < report.createdCount then refreshViewsAfterContactChange host
  return report

end Commands
end AgentFirstMail
