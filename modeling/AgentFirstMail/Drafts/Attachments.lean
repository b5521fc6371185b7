import AgentFirstMail.Drafts.Commands
import AgentFirstMail.Store.TextFiles

namespace AgentFirstMail
open Effect Local

/-- The directory of a case: its files and directories by their paths in it. -/
structure CaseFiles where
  files : Std.ExtTreeMap String Bytes := ∅
  directories : Std.ExtTreeSet String := ∅
deriving DecidableEq

namespace CaseFiles

def content (directory : CaseFiles) (path : String) : Option Bytes := directory.files[path]?

def isFile (directory : CaseFiles) (path : String) : Bool := (directory.content path).isSome

def pathExists (directory : CaseFiles) (path : String) : Bool :=
  directory.isFile path || directory.directories.contains path

def put (path : String) (bytes : Bytes) (directory : CaseFiles) : CaseFiles :=
  { directory with files := directory.files.insert path bytes }

theorem content_put {directory : CaseFiles} {path other : String} {bytes : Bytes} :
    (directory.put path bytes).content other =
      if other = path then some bytes else directory.content other := by
  by_cases heq : other = path
  · rw [if_pos heq, heq]
    exact Std.ExtTreeMap.getElem?_insert_self
  · rw [if_neg heq]
    exact Indexing.getElem?_insert_ne heq

theorem content_put_self {directory : CaseFiles} {path : String} {bytes : Bytes} :
    (directory.put path bytes).content path = some bytes := by
  rw [content_put, if_pos rfl]

theorem content_put_ne {directory : CaseFiles} {path other : String} {bytes : Bytes}
    (h : other ≠ path) : (directory.put path bytes).content other = directory.content other := by
  rw [content_put, if_neg h]

end CaseFiles

/-- Where the canonical path of a file to attach leads: into the case, or to some content
elsewhere. -/
inductive AttachmentFile where
  | inside (relative : String)
  | outside (fileName : Option String) (content : Bytes)

/-- What attaching uses of code outside the model: the clock, the check on names, the sanitizer of
file names, whose result is one path segment, and how front matter is written. -/
structure AttachHost where
  now : String
  validPathSegment : String → Bool
  sanitize : String → String
  format : MarkdownFormat DraftHeader

/-- An edited draft is read back with the front matter that it was given. -/
def AttachHost.Rereads (host : AttachHost) : Prop :=
  ∀ source header body edited, editFrontmatter host.format source header body = .ok edited →
    ∃ kept, readDoc host.format edited = .ok (header, kept)

def pathToString (path : String) : String :=
  String.ofList (path.toList.map fun c => if c = '\\' then '/' else c)

def draftPath (draftName : String) : String := "drafts/" ++ draftName

structure AttachedFile where
  attachment : String
  copied : Bool
  alreadyPresent : Bool
  sizeBytes : Nat
deriving DecidableEq

section Attaching
variable (host : AttachHost)

def safeAttachmentFilename (filename partId : String) : String :=
  let fallback := "part-" ++ partId
  let candidate := trimmed filename
  if candidate = "" then fallback
  else
    let sanitized := trimmed (host.sanitize candidate)
    if sanitized = "" then fallback else sanitized

/-- The first of a name, the same with a number before it, and the same with the time. -/
def uniqueDestPath (directory : CaseFiles) (destDir filename : String) : String :=
  let numbered := (List.range 999).map fun i => s!"{i + 1}-{filename}"
  let free := (filename :: numbered).find? fun name => !directory.pathExists (destDir ++ name)
  let time := String.ofList (host.now.toList.filter (· != ':'))
  destDir ++ free.getD s!"{time}-{filename}"

/-- Where a file from elsewhere is copied to if its name was not attached before. -/
def candidateAttachment (fileName : Option String) : String :=
  "files/" ++ safeAttachmentFilename host (fileName.getD "attachment") "attachment"

def copyTarget (directory : CaseFiles) (fileName : Option String) : String :=
  uniqueDestPath host directory "files/"
    (safeAttachmentFilename host (fileName.getD "attachment") "attachment")

/-- Copies a file into the case unless one of its name is attached. -/
def copyAttachment (directory : CaseFiles) (listed : List String) (fileName : Option String)
    (content : Bytes) : Local CaseFiles AppError (String × Bool) :=
  let candidate := candidateAttachment host fileName
  let alreadyPresent := listed.contains candidate
  if alreadyPresent && directory.isFile candidate then return (candidate, false)
  else do
    let dest := copyTarget host directory fileName
    Program.ofExcept (ensure (!directory.directories.contains dest)
      (storeError "copy draft attachment: Is a directory (os error 21)"))
    Program.write (CaseFiles.put dest content)
    return (dest, !alreadyPresent)

def sourceNotAFile : AppError := draftInvalid "draft attachment source is not a file"

/-- The path to attach, the file it stands for, and whether that was copied. -/
def placeAttachment (directory : CaseFiles) (listed : List String) :
    AttachmentFile → Local CaseFiles AppError (String × String × Bool)
  | .inside relative => do
    Program.ofExcept (ensure (directory.isFile relative) sourceNotAFile)
    return (pathToString relative, relative, false)
  | .outside fileName content => do
    let (dest, copied) ← copyAttachment host directory listed fileName content
    return (dest, dest, copied)

def DraftHeader.attach (header : DraftHeader) (attachment : String) : DraftHeader :=
  { header with attachments := header.attachments ++ [attachment] }

/-- Lists an attachment in a draft unless it is listed. -/
def listAttachment (draftName : String) (text : List Char) (header : DraftHeader)
    (body : List Char) (attachment : String) : Local CaseFiles AppError Unit :=
  if header.attachments.contains attachment then return ()
  else do
    let edited ← Program.ofExcept
      (editFrontmatter host.format text (header.attach attachment) body)
    Program.write (CaseFiles.put (draftPath draftName) (textBytes edited))

def attachFileToDraft (draftName : String) (source : Result AttachmentFile) :
    Local CaseFiles AppError AttachedFile := do
  Program.ofExcept (validateFileName host.validPathSegment "draft_name" draftName)
  let directory ← Program.read
  match directory.content (draftPath draftName) with
  | none => Program.fail (draftMissing draftName)
  | some bytes => do
    let source ← Program.ofExcept source
    let text ← Program.ofExcept (readToString "read draft" bytes)
    let (header, body) ← Program.ofExcept (readDoc host.format text)
    let (attachment, filePath, copied) ← placeAttachment host directory header.attachments source
    listAttachment host draftName text header body attachment
    let directory ← Program.read
    return { attachment, copied, alreadyPresent := header.attachments.contains attachment
             sizeBytes := ((directory.content filePath).getD []).length }

end Attaching
end AgentFirstMail
