import AgentFirstMail.Data.Lines
import AgentFirstMail.Types.Push

namespace AgentFirstMail

/-- The status of an IMAP response. -/
inductive ProtoStatus where
  | ok | no | bad | preauth | bye
deriving DecidableEq

/-- A member of a UID set: one UID or a range. -/
inductive UidSetMember where
  | uid (uid : Nat)
  | uidRange (first last : Nat)
deriving DecidableEq

/-- A `COPYUID` response code. -/
structure CopyUidCode where
  uidValidity : Nat
  sources : List UidSetMember
  targets : List UidSetMember
deriving DecidableEq

/-- What a response parses as: the tagged end of a command, a status of the server's own accord,
or anything else. -/
inductive ProtoResponse where
  | done (tag : String) (status : ProtoStatus) (copyUid : Option CopyUidCode)
  | data (status : ProtoStatus) (copyUid : Option CopyUidCode)
  | other
deriving DecidableEq

/-- What the IMAP library says went wrong, and how it prints it. -/
inductive ImapFailureKind where
  | no | bad | append | other
deriving DecidableEq

structure ImapFailure where
  kind : ImapFailureKind
  text : String
deriving DecidableEq

/-- What is used of the IMAP library: its parser, which answers what is left behind a response; how
a line prints without blanks around it; and what its `APPEND` makes of the bytes that it is sent,
up to the error of the connection, if there was one. -/
structure ImapLibrary where
  parse : Bytes → Option (Bytes × ProtoResponse)
  lineText : Bytes → String
  append : Option String → Bytes → Except ImapFailure Unit

/-- Whether a line is a status that speaks against the append, and then whether it is a tagged
one. -/
def ImapLibrary.rejection (library : ImapLibrary) (line : Bytes) : Option Bool :=
  match library.parse line with
  | some (_, .done _ .no _) | some (_, .done _ .bad _) => some true
  | some (_, .data .no _) | some (_, .data .bad _) | some (_, .data .bye _) => some false
  | _ => none

def lineFeed : UInt8 := 10

def lineLimit : Nat := 16 * 1024

/-- Reads along with the library, line by line, and keeps the status that counts. -/
structure StatusReader where
  active : Bool := false
  line : Bytes := []
  overLimit : Bool := false
  rejection : Option (String × Bool) := none

namespace StatusReader
variable (library : ImapLibrary)

def clear : StatusReader := { active := true }

def stop (reader : StatusReader) : StatusReader := { reader with active := false }

/-- A tagged rejection stays; another status gives way to the next. -/
def endLine (reader : StatusReader) : StatusReader :=
  let rejected := if reader.overLimit then none else library.rejection reader.line
  let rejection := match rejected with
    | some rejected =>
      if reader.rejection.all (!·.2) then some (library.lineText reader.line, rejected)
      else reader.rejection
    | none => reader.rejection
  { reader with line := [], overLimit := false, rejection }

def push (reader : StatusReader) (byte : UInt8) : StatusReader :=
  if reader.line.length < lineLimit then { reader with line := reader.line ++ [byte] }
  else { reader with overLimit := true }

def readByte (reader : StatusReader) (byte : UInt8) : StatusReader :=
  let reader := reader.push byte
  if byte = lineFeed then reader.endLine library else reader

/-- What one read of the stream returned. -/
def read (reader : StatusReader) (bytes : Bytes) : StatusReader :=
  if reader.active then bytes.foldl (readByte library) reader else reader

/-- Replaces what an error says by what the server said. -/
def enrich (reader : StatusReader) (error : AppError) : AppError :=
  match reader.rejection with
  | some (response, rejected) =>
    { error with
      message := response
      details := some
        { remoteEffectRejected :=
            some (rejected || error.details.any (·.remoteEffectRejected == some true)) } }
  | none => error

section Fragments
variable {library : ImapLibrary} {reader : StatusReader}

theorem readByte_active (byte : UInt8) :
    (reader.readByte library byte).active = reader.active := by
  simp only [readByte, push, endLine]
  split <;> split <;> rfl

theorem foldl_readByte_active (bytes : Bytes) :
    (bytes.foldl (readByte library) reader).active = reader.active := by
  induction bytes generalizing reader with
  | nil => rfl
  | cons byte rest ih =>
    rw [List.foldl_cons, ih, readByte_active]

theorem foldl_read (chunks : List Bytes) :
    chunks.foldl (read library) reader = reader.read library chunks.flatten := by
  induction chunks generalizing reader with
  | nil =>
    rw [List.foldl_nil, List.flatten_nil, read]
    split <;> rfl
  | cons chunk rest ih =>
    rw [List.foldl_cons, ih, List.flatten_cons]
    simp only [read]
    by_cases hactive : reader.active = true
    · simp only [if_pos hactive, foldl_readByte_active, List.foldl_append]
    · simp only [if_neg hactive]

/-- A reader holds so much of the line that has begun as it may. -/
structure Holds (reader : StatusReader) (begun : Bytes) : Prop where
  line : reader.line = begun.take lineLimit
  overLimit : reader.overLimit = decide (lineLimit < begun.length)

theorem Holds.push {begun : Bytes} (h : reader.Holds begun) (byte : UInt8) :
    (reader.push byte).Holds (begun ++ [byte]) := by
  have hlength : reader.line.length = min lineLimit begun.length := by
    rw [h.line, List.length_take]
  rw [StatusReader.push]
  split
  · rename_i hroom
    have hshort : begun.length < lineLimit := by omega
    refine ⟨?_, ?_⟩
    · rw [h.line, List.take_of_length_le (Nat.le_of_lt hshort), List.take_of_length_le]
      rw [List.length_append, List.length_singleton]
      exact hshort
    · rw [h.overLimit, List.length_append, List.length_singleton, decide_eq_decide]
      omega
  · rename_i hfull
    have hlong : lineLimit ≤ begun.length := by omega
    refine ⟨?_, ?_⟩
    · rw [h.line, List.take_append_of_le_length hlong]
    · symm
      rw [decide_eq_true_eq, List.length_append, List.length_singleton]
      omega

/-- A line that is short enough to be read and that is a tagged refusal. -/
def Refuses (library : ImapLibrary) (line : Bytes) : Prop :=
  line.length ≤ lineLimit ∧ library.rejection line = some true

theorem any_of_not_all {rejection : Option (String × Bool)}
    (h : ¬ rejection.all (!·.2) = true) : rejection.any (·.2) = true := by
  cases rejection with
  | none => exact (h rfl).elim
  | some kept => simpa using h

theorem endLine_rejected {line : Bytes} (h : reader.Holds line) :
    ((reader.endLine library).rejection.any (·.2) = true ↔
      reader.rejection.any (·.2) = true ∨ Refuses library line) := by
  by_cases hlong : lineLimit < line.length
  · have hrefuses : ¬ Refuses library line := fun hrefuses => by
      have hshort := hrefuses.1
      omega
    simp only [endLine, h.overLimit, decide_eq_true hlong, if_true, hrefuses, or_false]
  · have hline : reader.line = line := by
      rw [h.line, List.take_of_length_le (Nat.le_of_not_lt hlong)]
    have hrefuses : Refuses library line ↔ library.rejection line = some true :=
      and_iff_right (Nat.le_of_not_lt hlong)
    simp only [endLine, h.overLimit, decide_eq_false hlong, Bool.false_eq_true, if_false, hline,
      hrefuses]
    cases library.rejection line with
    | none => simp
    | some rejected =>
      dsimp only
      split
      · rename_i hall
        cases rejected with
        | true => simp
        | false =>
          cases hkept : reader.rejection with
          | none => simp
          | some kept =>
            rw [hkept] at hall
            simpa using hall
      · rename_i hall
        simp [any_of_not_all hall]

theorem readByte_rejection {byte : UInt8} : (reader.push byte).rejection = reader.rejection := by
  rw [push]
  split <;> rfl

theorem rejected_iff {begun bytes : Bytes} (h : reader.Holds begun) :
    ((bytes.foldl (readByte library) reader).rejection.any (·.2) = true ↔
      reader.rejection.any (·.2) = true ∨
        ∃ line ∈ Lines.complete lineFeed begun bytes, Refuses library line) := by
  induction bytes generalizing reader begun with
  | nil => simp [Lines.complete]
  | cons byte rest ih =>
    have hpush := h.push byte
    rw [List.foldl_cons, Lines.complete]
    by_cases heq : byte = lineFeed
    · have hempty : ((reader.push byte).endLine library).Holds [] := ⟨rfl, rfl⟩
      simp only [readByte, if_pos heq]
      rw [ih hempty, endLine_rejected hpush, readByte_rejection, heq]
      simp only [List.mem_cons, exists_eq_or_imp, or_assoc]
    · simp only [readByte, if_neg heq]
      rw [ih hpush, readByte_rejection]

end Fragments
end StatusReader
end AgentFirstMail
