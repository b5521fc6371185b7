import Mathlib.Data.List.DropRight
import AgentFirstMail.Store.Process

namespace AgentFirstMail

namespace Bytes

def newline : UInt8 := 10

def openBrace : UInt8 := 123

def closeBrace : UInt8 := 125

def isAsciiWhitespace (byte : UInt8) : Bool :=
  byte == 32 || byte == 9 || byte == 10 || byte == 12 || byte == 13

def trimAsciiWhitespace (line : Bytes) : Bytes :=
  (line.dropWhile isAsciiWhitespace).rdropWhile isAsciiWhitespace

end Bytes

open Bytes

/-- How a record is written as one line of JSON and read from one. -/
structure AuditCodec where
  serialize : AuditEvent → Bytes
  parse : Bytes → Except String AuditEvent

/-- A record as one line: a JSON object without a raw newline. -/
def AuditCodec.line (codec : AuditCodec) (event : AuditEvent) : Bytes :=
  codec.serialize event ++ [newline]

def auditLineInvalid (lineNumber : Nat) (error : String) : AppError :=
  storeError s!"parse audit event line {lineNumber}: {error}"

/-- Reads the lines in order. One that does not parse is an error, but for the last one that is
not empty. -/
def readAuditLines (codec : AuditCodec) : Nat → List Bytes → Result AuditLogRead
  | _, [] => .ok ⟨[], false⟩
  | number, line :: rest =>
    if (trimAsciiWhitespace line).isEmpty then readAuditLines codec (number + 1) rest
    else match codec.parse (trimAsciiWhitespace line) with
      | .ok event => do
        let read ← readAuditLines codec (number + 1) rest
        return { read with events := event :: read.events }
      | .error error =>
        if rest.all fun line => (trimAsciiWhitespace line).isEmpty then .ok ⟨[], true⟩
        else .error (auditLineInvalid number error)

def readAuditLog (codec : AuditCodec) (data : Bytes) : Result AuditLogRead :=
  readAuditLines codec 1 (data.splitOn newline)

/-- A call that appends a record: under a new id, or under one that is kept for it. -/
inductive AuditAppend where
  | event (event : AuditEvent)
  | withIdentity (event : AuditEvent)

/-- The record that a call writes to a log, unless it is refused or there already. -/
def recordToAppend (codec : AuditCodec) (data : Bytes) : AuditAppend → Result (Option AuditEvent)
  | .event event => .ok (some event)
  | .withIdentity event => do
    let existing ← readAuditLog codec data
    if existing.truncatedTail then throw Command.auditLogRecoveryRequired
    else if existing.events.any (·.eventId == event.eventId) then return none
    else return some event

/-- The log file, with the calls that were made and the records whose append completed. -/
structure AuditFile where
  data : Bytes := []
  calls : List AuditAppend := []
  completed : List AuditEvent := []

/-- One call: it writes nothing, or some of the bytes of its record's line, or all of them. -/
inductive AppendStep (codec : AuditCodec) (s : AuditFile) : AuditFile → Prop
  | unwritten (call : AuditAppend) :
      AppendStep codec s { s with calls := s.calls ++ [call] }
  | cut (call : AuditAppend) (event : AuditEvent) (piece : Bytes) :
      recordToAppend codec s.data call = .ok (some event) →
      piece <+: codec.line event → piece ≠ codec.line event →
      AppendStep codec s { s with data := s.data ++ piece, calls := s.calls ++ [call] }
  | complete (call : AuditAppend) (event : AuditEvent) :
      recordToAppend codec s.data call = .ok (some event) →
      AppendStep codec s
        { data := s.data ++ codec.line event, calls := s.calls ++ [call]
          completed := s.completed ++ [event] }

/-- There is one record at most under an id that only calls with an identity use. -/
def OncePerIdentity (calls : List AuditAppend) (events : List AuditEvent) : Prop :=
  ∀ eventId, (∀ event, .event event ∈ calls → event.eventId ≠ eventId) →
    (events.filter (·.eventId == eventId)).length ≤ 1

/-- The log can be read, and shows every record whose append completed and no identity twice. -/
def AuditFile.Survives (codec : AuditCodec) (s : AuditFile) : Prop :=
  ∃ read, readAuditLog codec s.data = .ok read ∧ s.completed.Sublist read.events ∧
    OncePerIdentity s.calls read.events

/-- The log is empty or ends with a newline. -/
def LineEnded (data : Bytes) : Prop := data = [] ∨ data.getLast? = some newline

/-- An append that completes has started on a line of its own. -/
def StartsLine (s s' : AuditFile) : Prop := s'.completed ≠ s.completed → LineEnded s.data

/-- A part of a record that an append has left on the last line. -/
def AuditCodec.Piece (codec : AuditCodec) (piece : Bytes) : Prop :=
  piece ≠ [] ∧ ∃ event, piece <+: codec.serialize event

/-- What JSON promises of records: an object fits on a line and is read back; the beginning of
one is no JSON text, and neither is one that another one begins behind or in. -/
structure AuditCodec.Lawful (codec : AuditCodec) : Prop where
  braced : ∀ event, ∃ inner, codec.serialize event = openBrace :: inner ++ [closeBrace]
  newline_free : ∀ event, newline ∉ codec.serialize event
  parse_serialize : ∀ event, codec.parse (codec.serialize event) = .ok event
  cut : ∀ event piece, piece ≠ [] → piece <+: codec.serialize event →
    piece ≠ codec.serialize event → ∃ error, codec.parse (trimAsciiWhitespace piece) = .error error
  joined : ∀ pieces : List Bytes, 2 ≤ pieces.length → (∀ piece ∈ pieces, codec.Piece piece) →
    ∃ error, codec.parse (trimAsciiWhitespace pieces.flatten) = .error error

section Lines
variable {codec : AuditCodec} {event : AuditEvent} {events : List AuditEvent}
  {pieces : List Bytes}

theorem trim_braced {inner : Bytes} :
    trimAsciiWhitespace (openBrace :: inner ++ [closeBrace]) = openBrace :: inner ++ [closeBrace] := by
  have hopen : isAsciiWhitespace openBrace = false := by decide
  have hclose : ¬isAsciiWhitespace closeBrace = true := by decide
  rw [trimAsciiWhitespace, List.cons_append, List.dropWhile_cons_of_neg (by rw [hopen]; simp),
    ← List.cons_append, List.rdropWhile_concat_neg _ _ _ hclose]

theorem trim_open_ne_nil {rest : Bytes} : trimAsciiWhitespace (openBrace :: rest) ≠ [] := by
  have hopen : isAsciiWhitespace openBrace = false := by decide
  rw [trimAsciiWhitespace, List.dropWhile_cons_of_neg (by rw [hopen]; simp)]
  intro hnil
  have hall := List.rdropWhile_eq_nil_iff.mp hnil openBrace List.mem_cons_self
  rw [hopen] at hall
  cases hall

namespace AuditCodec.Lawful

theorem trim_serialize (hcodec : codec.Lawful) :
    trimAsciiWhitespace (codec.serialize event) = codec.serialize event := by
  obtain ⟨inner, heq⟩ := hcodec.braced event
  rw [heq]
  exact trim_braced

theorem serialize_ne_nil (hcodec : codec.Lawful) : codec.serialize event ≠ [] := by
  obtain ⟨inner, heq⟩ := hcodec.braced event
  rw [heq]
  exact List.cons_ne_nil _ _

theorem trim_pieces_ne_nil (hcodec : codec.Lawful) (hne : pieces ≠ [])
    (hpieces : ∀ piece ∈ pieces, codec.Piece piece) :
    trimAsciiWhitespace pieces.flatten ≠ [] := by
  cases pieces with
  | nil => exact (hne rfl).elim
  | cons piece rest =>
    obtain ⟨hpiece, event, more, hleads⟩ := hpieces piece List.mem_cons_self
    obtain ⟨inner, hbraced⟩ := hcodec.braced event
    cases piece with
    | nil => exact (hpiece rfl).elim
    | cons first others =>
      rw [hbraced, List.cons_append] at hleads
      rw [(List.cons.inj hleads).1, List.flatten_cons, List.cons_append]
      exact trim_open_ne_nil

theorem newline_not_mem_pieces (hcodec : codec.Lawful)
    (hpieces : ∀ piece ∈ pieces, codec.Piece piece) : newline ∉ pieces.flatten := by
  intro hmem
  obtain ⟨piece, hin, hbyte⟩ := List.mem_flatten.mp hmem
  obtain ⟨_, event, hleads⟩ := hpieces piece hin
  exact hcodec.newline_free event (hleads.subset hbyte)

theorem readAuditLines_events (hcodec : codec.Lawful) {rest : List Bytes} {read : AuditLogRead}
    (hrest : ∀ number, readAuditLines codec number rest = .ok read) (number : Nat) :
    readAuditLines codec number (events.map codec.serialize ++ rest) =
      .ok { read with events := events ++ read.events } := by
  induction events generalizing number with
  | nil => exact hrest number
  | cons event others ih =>
    have hline : (trimAsciiWhitespace (codec.serialize event)).isEmpty = false := by
      rw [hcodec.trim_serialize, List.isEmpty_eq_false_iff]
      exact hcodec.serialize_ne_nil
    rw [List.map_cons, List.cons_append, readAuditLines, hline, hcodec.trim_serialize,
      hcodec.parse_serialize, ih (number + 1)]
    rfl

theorem readAuditLog_data (hcodec : codec.Lawful) {tail : Bytes} {rest : List Bytes}
    {read : AuditLogRead} (hsplit : tail.splitOn newline = rest)
    (hrest : ∀ number, readAuditLines codec number rest = .ok read) :
    readAuditLog codec (events.flatMap codec.line ++ tail) =
      .ok { read with events := events ++ read.events } := by
  have hlines : (events.flatMap codec.line ++ tail).splitOn newline =
      events.map codec.serialize ++ rest := by
    induction events with
    | nil => exact hsplit
    | cons event others ih =>
      have hfree : ∀ byte ∈ codec.serialize event, (byte == newline) = false := by
        intro byte hmem
        rw [beq_eq_false_iff_ne]
        rintro rfl
        exact hcodec.newline_free event hmem
      rw [List.splitOn_eq_splitOnP] at ih ⊢
      rw [List.flatMap_cons, AuditCodec.line, List.append_assoc, List.append_assoc,
        List.singleton_append, List.splitOnP_append_cons_of_forall_mem hfree newline
          (beq_self_eq_true _), ih, List.map_cons, List.cons_append]
  rw [readAuditLog, hlines]
  exact hcodec.readAuditLines_events hrest 1

end AuditCodec.Lawful
end Lines

end AgentFirstMail
