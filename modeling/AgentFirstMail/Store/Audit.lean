import AgentFirstMail.Store.Overlay

namespace AgentFirstMail

/-- What reading the log finds; a last line that does not parse is only warned about. -/
structure AuditLogRead where
  events : List AuditEvent
  truncatedTail : Bool

namespace AuditLog

/-- The physical lines that are not empty. -/
def written (log : AuditLog) : List (List AuditEvent) :=
  (log.lines ++ [log.tail]).filter (!·.isEmpty)

def lineInvalid (lineNumber : Nat) : AppError :=
  storeError s!"parse audit event line {lineNumber}: trailing characters"

/-- A line parses when it holds exactly one record. -/
def readLines : Nat → List (List AuditEvent) → Result AuditLogRead
  | _, [] => .ok ⟨[], false⟩
  | number, [event] :: rest => do
    let read ← readLines (number + 1) rest
    return ⟨event :: read.events, read.truncatedTail⟩
  | _, [_] => .ok ⟨[], true⟩
  | number, _ :: _ :: _ => .error (lineInvalid number)

def read (log : AuditLog) : Result AuditLogRead := readLines 1 log.written

/-- The record's bytes, appended to whatever the last line holds. -/
def appendRecord (log : AuditLog) (event : AuditEvent) : AuditLog :=
  { log with tail := log.tail ++ [event] }

def appendNewline (log : AuditLog) : AuditLog := { lines := log.lines ++ [log.tail], tail := [] }

def events (log : AuditLog) : List AuditEvent := (log.lines ++ [log.tail]).flatten

@[simp] theorem events_appendRecord (log : AuditLog) (event : AuditEvent) :
    (log.appendRecord event).events = log.events ++ [event] := by
  simp [events, appendRecord]

@[simp] theorem events_appendNewline (log : AuditLog) :
    log.appendNewline.events = log.events := by
  simp [events, appendNewline]

end AuditLog
end AgentFirstMail
