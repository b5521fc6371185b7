import AgentFirstMail.Effect.Frame
import AgentFirstMail.Transport.Diagnostics

namespace AgentFirstMail
open Effect

/-- The answer to a command that changes something, and whether the server applied it, which no
client sees. -/
structure Served (ε α : Type) where
  reply : Except ε α
  applied : Bool

/-- A reply as the server sends it: one line, or text with literals in it. -/
inductive ServerReply where
  | line (text : Bytes)
  | literals (text : Bytes)

def ServerReply.bytes : ServerReply → Bytes
  | line text => text
  | literals text => text

/-- What goes over a connection while a message is appended: the tag of the command, what the
server sends, of which the first part may have been read before and the last part may never
arrive, the reads, and the error of the connection if it is lost. -/
structure AppendExchange where
  tag : String
  sent : List ServerReply
  buffered : Bytes
  chunks : List Bytes
  lost : Option String
  applied : Bool
  received : chunks.flatten <:+: sent.flatMap (·.bytes)

/-- How an SMTP send failed: the server answered it with a permanent or a transient negative reply,
or it did not get that far. -/
inductive SmtpFailureKind where
  | permanent | transient | other
deriving DecidableEq

structure SmtpFailure where
  kind : SmtpFailureKind
  text : String

/-- The response of the sending service, with the receipt in it. -/
structure ApiResponse where
  success : Bool
  result : Option SendReceipt

/-- What a request to the service comes to: no response, a body that cannot be read, or a body and
what it parses as. -/
inductive PostReply where
  | failed
  | unreadable (status : Nat)
  | body (status : Nat) (parsed : Option ApiResponse)

/-- A message as the sending service takes it. -/
structure RawSubmission where
  sender : String
  recipients : List String
  mimeMessage : String

/-- What the transports ask of a server. The replies to an append are read along with if it is
`observed`. -/
inductive WireCall where
  | select (folder : String)
  | examine (folder : String)
  | capabilities
  | uidSearch (query : String)
  | uidStore (uidSet query : String)
  | uidMove (uid : Nat) (folder : String)
  | uidCopy (uidSet folder : String)
  | uidExpunge (uidSet : String)
  | append (observed : Bool) (folder : String) (raw : Bytes) (draft : Bool)
  | sendRaw (sender : String) (recipients : List String) (raw : Bytes)
  | post (endpoint : String) (submission : RawSubmission)

abbrev WireCall.Reply : WireCall → Type
  | select _ => Except ImapFailure (Option Nat)
  | examine _ => Except ImapFailure (Option Nat)
  | capabilities => Except ImapFailure (List String)
  | uidSearch _ => Except ImapFailure (List Nat)
  | uidStore .. => Served ImapFailure Unit
  | uidMove .. => Served ImapFailure Bytes
  | uidCopy .. => Served ImapFailure Bytes
  | uidExpunge _ => Served ImapFailure Unit
  | append .. => AppendExchange
  | sendRaw .. => Served SmtpFailure Unit
  | post .. => Served Empty PostReply

/-- A transport at work. Nothing is written; every answer of a server is a value. -/
abbrev Wire (α : Type) := Program Unit WireCall WireCall.Reply AppError α

abbrev WireEvent := Event Unit WireCall WireCall.Reply AppError

namespace Wire

def call (request : WireCall) : Wire request.Reply := Program.perform request

/-- Fails as the IMAP library does. -/
def imap (code : String) : Except ImapFailure α → Wire α
  | .ok value => return value
  | .error failure => Program.fail { errorCode := code, message := failure.text }

end Wire
end AgentFirstMail
