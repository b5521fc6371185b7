import AgentFirstMail.Channels.Files
import AgentFirstMail.Effect.Disk
import AgentFirstMail.Transport.Imap

namespace AgentFirstMail
open Effect

def AppError.io (context error : String) : AppError := storeError s!"{context}: {error}"

inductive IoError where
  | alreadyExists
  | notFound
  | failed (text : String)

def IoError.text : IoError → String
  | alreadyExists => "File exists (os error 17)"
  | notFound => "No such file or directory (os error 2)"
  | failed text => text

/-- How reading a bounded regular file may fail all the same. -/
inductive ReadFault where
  | stat (text : String)
  | opening (text : String)
  | statOpen (text : String)
  | notRegular
  | changed
  | reading (text : String)
  | grown

def ReadFault.error : ReadFault → AppError
  | stat text => .io "stat channel file" text
  | opening text => .io "open channel file" text
  | statOpen text => .io "stat open channel file" text
  | notRegular => { errorCode := "channel_file_invalid", message := "channel file is not regular" }
  | changed =>
    { errorCode := "channel_file_changed", message := "channel file changed while opening" }
  | reading text => .io "read channel file" text
  | grown =>
    { errorCode := "channel_file_invalid"
      message := "channel file exceeds the configured size limit" }

/-- A call to the file system; it may fail although nothing on the disk is against it. -/
inductive DiskCall where
  | readRegular (path : FilePath)
  | createDirAll (directory : String)
  | createNew (path : FilePath)
  | writeAll (path : FilePath)
  | syncAll (path : FilePath)
  | hardLink (source target : FilePath)
  | syncDir (directory : String)
  | removeFile (path : FilePath)

/-- What is told of a failure; a write has got some of the way by then. -/
def DiskCall.Fault : DiskCall → Type
  | readRegular _ => ReadFault
  | writeAll _ => Nat × String
  | _ => String

abbrev DiskCall.Reply (call : DiskCall) : Type := Option call.Fault

abbrev DiskEvent := Event (Disk UInt8) DiskCall DiskCall.Reply Empty

abbrev Publishing (α : Type) := Program (Disk UInt8) DiskCall DiskCall.Reply Empty α

/-- What stands on the disk under a path, if it is a regular file within the limit. -/
def regularBytes (disk : Disk UInt8) (path : FilePath) (maxBytes : Nat) : Result Bytes :=
  match disk.entries path with
  | none => .error (.io "stat channel file" IoError.notFound.text)
  | some .special => .error channelFileInvalid
  | some (.file inode) => do
    ensure (decide ((disk.contents inode).length ≤ maxBytes)) channelFileInvalid
    return disk.contents inode

def readRegular (path : FilePath) (maxBytes : Nat) : Publishing (Result Bytes) := do
  match ← Program.perform (DiskCall.readRegular path) with
  | some fault => return .error (ReadFault.error fault)
  | none => return regularBytes (← Program.read) path maxBytes

/-- A call that neither looks at what is modelled of the disk nor changes it. -/
def checked (call : DiskCall) (text : call.Fault → String) : Publishing (Except IoError Unit) := do
  match ← Program.perform call with
  | some fault => return .error (.failed (text fault))
  | none => return .ok ()

def createDirAll (directory : String) : Publishing (Except IoError Unit) :=
  checked (.createDirAll directory) id

def createNew (path : FilePath) : Publishing (Except IoError Unit) := do
  match ← Program.perform (DiskCall.createNew path) with
  | some text => return .error (.failed text)
  | none =>
    if ((← Program.read).entries path).isSome then return .error .alreadyExists
    Program.write (·.create path)
    return .ok ()

def writeAll (path : FilePath) (bytes : Bytes) : Publishing (Except IoError Unit) := do
  match ← Program.perform (DiskCall.writeAll path) with
  | some (written, text) =>
    Program.write (·.put path (bytes.take written))
    return .error (.failed text)
  | none =>
    Program.write (·.put path bytes)
    return .ok ()

def syncAll (path : FilePath) : Publishing (Except IoError Unit) := checked (.syncAll path) id

/-- A link never replaces what is there. -/
def hardLink (source target : FilePath) : Publishing (Except IoError Unit) := do
  match ← Program.perform (DiskCall.hardLink source target) with
  | some text => return .error (.failed text)
  | none =>
    let disk ← Program.read
    if (disk.entries source).isNone then return .error .notFound
    if (disk.entries target).isSome then return .error .alreadyExists
    Program.write (·.link source target)
    return .ok ()

def syncDir (directory : String) : Publishing (Except IoError Unit) :=
  checked (.syncDir directory) id

def removeFile (path : FilePath) : Publishing Unit := do
  match ← Program.perform (DiskCall.removeFile path) with
  | some _ => return
  | none => Program.write (·.remove path)

/-- Where a publish failed: only before the link is it certain that nothing became visible. -/
inductive PublishError where
  | beforeLink (error : AppError)
  | visible (error : AppError)

def channelOutputConflict : AppError :=
  { errorCode := "channel_output_conflict"
    message := "channel output already contains different content" }

def channelPathInvalid : AppError :=
  { errorCode := "channel_path_invalid", message := "output needs a parent directory" }

/-- Names an operation in its error. -/
def io (tag : AppError → PublishError) (context : String)
    (operation : Publishing (Except IoError Unit)) : ExceptT PublishError Publishing Unit :=
  ExceptT.mk do
    match ← operation with
    | .ok () => return .ok ()
    | .error error => return .error (tag (.io context error.text))

/-- An output that is there must be of the same content. -/
def ensureSameOutput (path : FilePath) (bytes : Bytes) (maxBytes : Nat) :
    ExceptT PublishError Publishing Unit :=
  ExceptT.mk do
    match ← readRegular path maxBytes with
    | .ok existing =>
      return if existing = bytes then .ok () else .error (.visible channelOutputConflict)
    | .error error => return .error (.visible error)

def linkOutput (temp path : FilePath) (bytes : Bytes) (maxBytes : Nat) :
    ExceptT PublishError Publishing Unit := do
  match ← (ExceptT.lift (hardLink temp path) : ExceptT PublishError Publishing _) with
  | .ok () => return
  | .error .alreadyExists => ensureSameOutput path bytes maxBytes
  | .error error => throw (.beforeLink (.io "publish channel output" error.text))

/-- Writes the output under a temporary name and links it into place. -/
def stageOutput (temp path : FilePath) (parent : String) (bytes : Bytes) (maxBytes : Nat) :
    ExceptT PublishError Publishing Unit := do
  io .beforeLink "create temporary channel output" (createNew temp)
  io .beforeLink "write channel output" (writeAll temp bytes)
  io .beforeLink "write channel output" (syncAll temp)
  linkOutput temp path bytes maxBytes
  io .visible "sync channel output directory" (syncDir parent)

/-- What a temporary name is made of. -/
structure TempName where
  processId : Nat
  timestampNanos : Int
  tempId : Nat

def TempName.text (temp : TempName) : String :=
  ".afmail-" ++ toString temp.processId ++ "-" ++ toString temp.timestampNanos ++ "-" ++
    toString temp.tempId ++ ".tmp"

def publishStaged (temp : TempName) (path : FilePath) (bytes : Bytes) (maxBytes : Nat) :
    Publishing (Except PublishError Unit) := do
  match ← readRegular path maxBytes with
  | .ok existing =>
    return if existing = bytes then .ok () else .error (.visible channelOutputConflict)
  | .error _ =>
    match path.directory with
    | none => return .error (.beforeLink channelPathInvalid)
    | some parent =>
      match ← createDirAll parent with
      | .error error =>
        return .error (.beforeLink (.io "create channel output directory" error.text))
      | .ok () =>
        let temp : FilePath := ⟨some parent, temp.text⟩
        let attempt ← (stageOutput temp path parent bytes maxBytes).run
        removeFile temp
        return attempt

/-- A configured outbox of files; `outboxPath` is resolved against the workspace, and its paths
may conflict with another source's. -/
structure FileOutbox where
  outboxPath : String
  maxMessageBytes : Nat
  conflict : Option AppError := none

/-- What publishing uses of the configuration and of the reader of evidence. -/
structure FileOutputs where
  filesEnabled : Bool
  sources : String → Option FileOutbox
  decode : Bytes → Result ChannelEvidence

def requireFiles (enabled : Bool) : Result Unit :=
  ensure enabled
    { errorCode := "feature_disabled", message := "file channels require the files feature" }

def validateIdentifier (value : String) : Result Unit :=
  ensure (!Text.isBlank value && value.utf8ByteSize ≤ 512 && !value.toList.any Text.isControl)
    { errorCode := "channel_message_invalid"
      message := "channel identifiers must contain 1–512 printable UTF-8 bytes" }

def FileOutputs.source (outputs : FileOutputs) (route : ReplyRoute) : Result FileOutbox := do
  requireFiles outputs.filesEnabled
  validateIdentifier route.conversationId
  match outputs.sources route.sourceId with
  | some outbox => return outbox
  | none => .error { errorCode := "config_missing"
                     message := "reply route names an unconfigured file source" }

/-- An output that is to be published. -/
structure FileOutput where
  path : FilePath
  bytes : Bytes
  maxBytes : Nat

def FileOutputs.outputOf (outputs : FileOutputs) (prepared : PreparedOutbound) :
    Result FileOutput :=
  match prepared.delivery with
  | .email _ => .error { errorCode := "channel_operation_unsupported"
                         message := "file output requires a file route" }
  | .file route => do
    let outbox ← outputs.source route
    match outbox.conflict with
    | some error => .error error
    | none =>
      let stored ← outputs.decode prepared.raw
      return { path := ⟨some outbox.outboxPath, prepared.messageId ++ ".json"⟩
               bytes := stored.contentJson
               maxBytes := outbox.maxMessageBytes }

/-- Only what failed before the link is known to have made no call. -/
def PublishError.toError : PublishError → AppError
  | beforeLink error => error.withDetails callsNotStarted
  | visible error => error

def publish (outputs : FileOutputs) (temp : TempName) (prepared : PreparedOutbound) :
    Publishing (Result Unit) :=
  match outputs.outputOf prepared with
  | .error error => return .error (error.withDetails callsNotStarted)
  | .ok output => do
    let staged ← publishStaged temp output.path output.bytes output.maxBytes
    return staged.mapError PublishError.toError

end AgentFirstMail
