import Mathlib.Logic.Relation
import AgentFirstMail.Store.AuditText

namespace AgentFirstMail
open Bytes

section Runs

/-- What reading finds on the last line of a log. -/
inductive LastLine (codec : AuditCodec) : List Bytes → AuditLogRead → Prop
  | empty : LastLine codec [] ⟨[], false⟩
  | whole (event : AuditEvent) : LastLine codec [codec.serialize event] ⟨[event], false⟩
  | cut (event : AuditEvent) (piece : Bytes) : piece <+: codec.serialize event →
      piece ≠ codec.serialize event → LastLine codec [piece] ⟨[], true⟩
  | joined (pieces : List Bytes) : 2 ≤ pieces.length → LastLine codec pieces ⟨[], true⟩

/-- The records whose append completed are on the log, and pieces of others behind them. -/
structure AuditFile.Holds (codec : AuditCodec) (s : AuditFile) (pieces : List Bytes) : Prop where
  data : s.data = s.completed.flatMap codec.line ++ pieces.flatten
  pieces : ∀ piece ∈ pieces, codec.Piece piece

variable {codec : AuditCodec} {event : AuditEvent} {events : List AuditEvent}
  {pieces : List Bytes} {s s' : AuditFile} {call : AuditAppend} {calls : List AuditAppend}
  {last : AuditLogRead} {piece : Bytes}

theorem LastLine.readAuditLines (hlast : LastLine codec pieces last) (hcodec : codec.Lawful)
    (hpieces : ∀ piece ∈ pieces, codec.Piece piece) {rest : List Bytes}
    (hrest : rest.all (fun line => (trimAsciiWhitespace line).isEmpty) = true)
    (hread : ∀ number, AgentFirstMail.readAuditLines codec number rest = .ok ⟨[], false⟩)
    (number : Nat) :
    AgentFirstMail.readAuditLines codec number (pieces.flatten :: rest) = .ok last := by
  have htorn : ∀ error, codec.parse (trimAsciiWhitespace pieces.flatten) = .error error →
      pieces ≠ [] →
      AgentFirstMail.readAuditLines codec number (pieces.flatten :: rest) = .ok ⟨[], true⟩ := by
    intro error herror hne
    have hline : (trimAsciiWhitespace pieces.flatten).isEmpty = false := by
      rw [List.isEmpty_eq_false_iff]
      exact hcodec.trim_pieces_ne_nil hne hpieces
    rw [AgentFirstMail.readAuditLines, hline, herror, hrest]
    rfl
  cases hlast with
  | empty =>
    rw [List.flatten_nil, AgentFirstMail.readAuditLines]
    exact hread (number + 1)
  | whole event =>
    have hlines : AgentFirstMail.readAuditLines codec number ([event].map codec.serialize ++ rest) =
        .ok ⟨[event], false⟩ := hcodec.readAuditLines_events hread number
    rw [List.map_singleton, List.singleton_append] at hlines
    rw [List.flatten_singleton]
    exact hlines
  | cut event piece hleads hne =>
    have hpiece := (hpieces piece List.mem_cons_self).1
    obtain ⟨error, herror⟩ := hcodec.cut event piece hpiece hleads hne
    apply htorn error
    · rw [List.flatten_singleton]
      exact herror
    · exact List.cons_ne_nil _ _
  | joined _ htwo =>
    obtain ⟨error, herror⟩ := hcodec.joined pieces htwo hpieces
    apply htorn error herror
    intro hnil
    rw [hnil] at htwo
    cases htwo

namespace AuditFile.Holds

theorem read (hholds : s.Holds codec pieces) (hcodec : codec.Lawful)
    (hlast : LastLine codec pieces last) :
    readAuditLog codec s.data = .ok { last with events := s.completed ++ last.events } := by
  have hsplit : pieces.flatten.splitOn newline = [pieces.flatten] := by
    rw [List.splitOn_eq_splitOnP]
    apply List.splitOnP_eq_singleton
    intro byte hmem
    rw [beq_eq_false_iff_ne]
    rintro rfl
    exact hcodec.newline_not_mem_pieces hholds.pieces hmem
  rw [hholds.data]
  apply hcodec.readAuditLog_data hsplit
  exact hlast.readAuditLines hcodec hholds.pieces rfl fun _ => rfl

/-- A log whose last line is not ended holds pieces. -/
theorem lineEnded_iff (hholds : s.Holds codec pieces) (hcodec : codec.Lawful) :
    LineEnded s.data ↔ pieces = [] := by
  have hfree := hcodec.newline_not_mem_pieces hholds.pieces
  constructor
  · intro hended
    by_contra hne
    have hpieces : pieces.flatten ≠ [] := by
      intro hnil
      apply hcodec.trim_pieces_ne_nil hne hholds.pieces
      rw [hnil]
      rfl
    have hbyte := List.getLast?_eq_some_getLast hpieces
    rcases hended with hempty | hnewline
    · rw [hholds.data, List.append_eq_nil_iff] at hempty
      exact hpieces hempty.2
    · rw [hholds.data, List.getLast?_append, hbyte, Option.some_or] at hnewline
      rw [hnewline] at hbyte
      exact hfree (List.mem_of_getLast? hbyte)
  · rintro rfl
    cases hcompleted : s.completed using List.reverseRecOn with
    | nil =>
      left
      rw [hholds.data, hcompleted]
      rfl
    | append_singleton before event =>
      right
      rw [hholds.data, hcompleted, List.flatten_nil, List.append_nil, List.flatMap_append,
        List.flatMap_singleton, AuditCodec.line, ← List.append_assoc, List.getLast?_concat]

end AuditFile.Holds

theorem recordToAppend_cases (hrecord : recordToAppend codec s.data call = .ok (some event)) :
    call = .event event ∨ call = .withIdentity event ∧ ∃ read,
      readAuditLog codec s.data = .ok read ∧ read.truncatedTail = false ∧
        ∀ existing ∈ read.events, existing.eventId ≠ event.eventId := by
  cases call with
  | event other =>
    cases hrecord
    exact .inl rfl
  | withIdentity other =>
    right
    obtain ⟨read, hread, hrecord⟩ := Result.bind_ok hrecord
    split at hrecord
    · cases hrecord
    · rename_i htail
      split at hrecord
      · cases hrecord
      · rename_i hnone
        cases hrecord
        refine ⟨rfl, read, hread, Bool.eq_false_iff.mpr htail, ?_⟩
        intro existing hmem heq
        apply hnone
        rw [List.any_eq_true]
        exact ⟨existing, hmem, beq_iff_eq.mpr heq⟩

theorem OncePerIdentity.called (honce : OncePerIdentity calls events) (call : AuditAppend) :
    OncePerIdentity (calls ++ [call]) events := by
  intro eventId hunused
  apply honce
  intro event hmem
  exact hunused event (List.mem_append_left _ hmem)

theorem OncePerIdentity.sublist (honce : OncePerIdentity calls events) {fewer : List AuditEvent}
    (hfewer : fewer.Sublist events) : OncePerIdentity calls fewer := by
  intro eventId hunused
  exact (hfewer.filter _).length_le.trans (honce eventId hunused)

theorem OncePerIdentity.append (honce : OncePerIdentity calls events)
    (hrecord : call = .event event ∨ call = .withIdentity event ∧
      ∀ existing ∈ events, existing.eventId ≠ event.eventId) :
    OncePerIdentity (calls ++ [call]) (events ++ [event]) := by
  intro eventId hunused
  have hbefore := honce.called call eventId hunused
  rw [List.filter_append, List.length_append]
  by_cases heq : event.eventId = eventId
  · rcases hrecord with rfl | ⟨rfl, hnone⟩
    · exact (hunused event (by simp) heq).elim
    · have hnil : events.filter (·.eventId == eventId) = [] := by
        rw [List.filter_eq_nil_iff]
        intro existing hmem
        rw [beq_iff_eq, ← heq]
        exact hnone existing hmem
      rw [hnil]
      exact (Nat.zero_add _).le.trans (List.length_filter_le _ [event])
  · rw [List.filter_cons_of_neg (by rw [beq_iff_eq]; exact heq), List.filter_nil]
    exact hbefore

/-- The log shows its completed records and what its last line holds. -/
structure AuditFile.Shows (codec : AuditCodec) (s : AuditFile) (pieces : List Bytes)
    (last : AuditLogRead) : Prop where
  holds : s.Holds codec pieces
  lastLine : LastLine codec pieces last
  once : OncePerIdentity s.calls (s.completed ++ last.events)

theorem AuditFile.Shows.survives (hshows : s.Shows codec pieces last) (hcodec : codec.Lawful) :
    s.Survives codec :=
  ⟨_, hshows.holds.read hcodec hshows.lastLine, List.sublist_append_left _ _, hshows.once⟩

theorem AuditFile.Shows.recorded (hshows : s.Shows codec pieces last) (hcodec : codec.Lawful)
    (hrecord : recordToAppend codec s.data call = .ok (some event)) :
    call = .event event ∨ call = .withIdentity event ∧
      ∀ existing ∈ s.completed ++ last.events, existing.eventId ≠ event.eventId := by
  rcases recordToAppend_cases hrecord with hevent | ⟨hidentity, read, hread, _, hnone⟩
  · exact .inl hevent
  · cases (hshows.holds.read hcodec hshows.lastLine).symm.trans hread
    exact .inr ⟨hidentity, hnone⟩

theorem prefix_line (hleads : piece <+: codec.line event) (hne : piece ≠ codec.line event) :
    piece <+: codec.serialize event := by
  rcases List.prefix_concat_iff.mp hleads with hwhole | hpart
  · exact (hne hwhole).elim
  · exact hpart

/-- An append that is cut leaves the log to be read as before, or as if it were not cut. -/
theorem AuditFile.Shows.cut (hshows : s.Shows codec pieces last) (hcodec : codec.Lawful)
    (hrecord : recordToAppend codec s.data call = .ok (some event))
    (hleads : piece <+: codec.line event) (hne : piece ≠ codec.line event) :
    ∃ pieces' last', AuditFile.Shows codec
      { s with data := s.data ++ piece, calls := s.calls ++ [call] } pieces' last' := by
  by_cases hnil : piece = []
  · subst hnil
    refine ⟨pieces, last, ⟨?_, hshows.holds.pieces⟩, hshows.lastLine, hshows.once.called call⟩
    exact (List.append_nil _).trans hshows.holds.data
  · have hpiece := prefix_line hleads hne
    have hpieces : ∀ part ∈ pieces ++ [piece], codec.Piece part := by
      intro part hmem
      rcases List.mem_append.mp hmem with hold | hnew
      · exact hshows.holds.pieces part hold
      · rw [List.mem_singleton.mp hnew]
        exact ⟨hnil, event, hpiece⟩
    have hdata : s.data ++ piece = s.completed.flatMap codec.line ++ (pieces ++ [piece]).flatten := by
      rw [hshows.holds.data, List.flatten_append, List.flatten_singleton, List.append_assoc]
    have hcompleted : OncePerIdentity (s.calls ++ [call]) (s.completed ++ []) := by
      rw [List.append_nil]
      exact (hshows.once.sublist (List.sublist_append_left _ _)).called call
    by_cases hfirst : pieces = []
    · subst hfirst
      by_cases hwhole : piece = codec.serialize event
      · subst hwhole
        refine ⟨_, _, ⟨hdata, hpieces⟩, .whole event, ?_⟩
        have hlast : last.events = [] := by
          cases hshows.lastLine with
          | empty => rfl
          | joined _ htwo => cases htwo
        have honce := hshows.once.append (hshows.recorded hcodec hrecord)
        rw [hlast, List.append_nil] at honce
        exact honce
      · exact ⟨_, _, ⟨hdata, hpieces⟩, .cut event piece hpiece hwhole, hcompleted⟩
    · refine ⟨_, _, ⟨hdata, hpieces⟩, .joined _ ?_, hcompleted⟩
      rw [List.length_append, List.length_singleton]
      exact Nat.succ_le_succ (List.length_pos_iff.mpr hfirst)

theorem AuditFile.Shows.complete (hshows : s.Shows codec [] last) (hcodec : codec.Lawful)
    (hrecord : recordToAppend codec s.data call = .ok (some event)) :
    AuditFile.Shows codec { data := s.data ++ codec.line event, calls := s.calls ++ [call]
                            completed := s.completed ++ [event] } [] ⟨[], false⟩ := by
  refine ⟨⟨?_, hshows.holds.pieces⟩, .empty, ?_⟩
  · rw [hshows.holds.data, List.flatMap_append, List.flatMap_singleton, List.flatten_nil,
      List.append_nil, List.append_nil]
  · have hlast : last.events = [] := by
      cases hshows.lastLine with
      | empty => rfl
      | joined _ htwo => cases htwo
    have honce := hshows.once.append (hshows.recorded hcodec hrecord)
    rw [hlast, List.append_nil] at honce
    rw [List.append_nil]
    exact honce

/-- An append that completes behind pieces of others is lost. -/
theorem AuditFile.Shows.lost (hshows : s.Shows codec pieces last) (hcodec : codec.Lawful)
    (hne : pieces ≠ []) :
    ¬AuditFile.Survives codec { data := s.data ++ codec.line event, calls
                                completed := s.completed ++ [event] } := by
  have hpieces : ∀ part ∈ pieces ++ [codec.serialize event], codec.Piece part := by
    intro part hmem
    rcases List.mem_append.mp hmem with hold | hnew
    · exact hshows.holds.pieces part hold
    · rw [List.mem_singleton.mp hnew]
      exact ⟨hcodec.serialize_ne_nil, event, List.prefix_rfl⟩
  have htwo : 2 ≤ (pieces ++ [codec.serialize event]).length := by
    rw [List.length_append, List.length_singleton]
    exact Nat.succ_le_succ (List.length_pos_iff.mpr hne)
  have hdata : s.data ++ codec.line event = s.completed.flatMap codec.line ++
      ((pieces ++ [codec.serialize event]).flatten ++ newline :: []) := by
    rw [hshows.holds.data, AuditCodec.line, List.flatten_append, List.flatten_singleton,
      List.append_assoc, List.append_assoc]
  have hsplit : ((pieces ++ [codec.serialize event]).flatten ++ newline :: []).splitOn newline =
      [(pieces ++ [codec.serialize event]).flatten, []] := by
    have hfree : ∀ byte ∈ (pieces ++ [codec.serialize event]).flatten, (byte == newline) = false := by
      intro byte hmem
      rw [beq_eq_false_iff_ne]
      rintro rfl
      exact hcodec.newline_not_mem_pieces hpieces hmem
    rw [List.splitOn_eq_splitOnP,
      List.splitOnP_append_cons_of_forall_mem hfree newline (beq_self_eq_true _)]
    rfl
  have hlast : ∀ number, readAuditLines codec number
      [(pieces ++ [codec.serialize event]).flatten, []] = .ok ⟨[], true⟩ :=
    (LastLine.joined _ htwo).readAuditLines hcodec hpieces rfl fun _ => rfl
  have hread : readAuditLog codec (s.data ++ codec.line event) = .ok ⟨s.completed ++ [], true⟩ := by
    rw [hdata]
    exact hcodec.readAuditLog_data hsplit hlast
  rintro ⟨read, hsurvives, hsublist, _⟩
  cases hread.symm.trans hsurvives
  have hlength := hsublist.length_le
  rw [List.append_nil, List.length_append, List.length_singleton] at hlength
  exact Nat.not_succ_le_self _ hlength

/-- Of an appending call on a log that shows its records: the log survives just when an append
that completes has started on a line of its own. -/
theorem AppendStep.shows (hstep : AppendStep codec s s') (hshows : s.Shows codec pieces last)
    (hcodec : codec.Lawful) :
    (s'.Survives codec ↔ StartsLine s s') ∧
      (StartsLine s s' → ∃ pieces' last', s'.Shows codec pieces' last') := by
  have hkept : ∀ later : AuditFile, later.completed = s.completed →
      (∃ pieces' last', later.Shows codec pieces' last') →
      (later.Survives codec ↔ StartsLine s later) ∧
        (StartsLine s later → ∃ pieces' last', later.Shows codec pieces' last') := by
    intro later hcompleted ⟨pieces', last', hlater⟩
    refine ⟨⟨?_, fun _ => hlater.survives hcodec⟩, fun _ => ⟨pieces', last', hlater⟩⟩
    intro _ hne
    exact (hne hcompleted).elim
  cases hstep with
  | unwritten call =>
    have hlater : AuditFile.Shows codec { s with calls := s.calls ++ [call] } pieces last :=
      ⟨⟨hshows.holds.data, hshows.holds.pieces⟩, hshows.lastLine, hshows.once.called call⟩
    exact hkept _ rfl ⟨pieces, last, hlater⟩
  | cut call event piece hrecord hleads hne =>
    exact hkept _ rfl (hshows.cut hcodec hrecord hleads hne)
  | complete call event hrecord =>
    have hgrows : s.completed ++ [event] ≠ s.completed := by
      intro heq
      have hlength := congrArg List.length heq
      rw [List.length_append, List.length_singleton] at hlength
      omega
    by_cases hended : pieces = []
    · subst hended
      have hlater := hshows.complete hcodec hrecord
      have hstarts : LineEnded s.data := (hshows.holds.lineEnded_iff hcodec).mpr rfl
      exact ⟨⟨fun _ _ => hstarts, fun _ => hlater.survives hcodec⟩, fun _ => ⟨_, _, hlater⟩⟩
    · have hnot : ¬LineEnded s.data := by
        rw [hshows.holds.lineEnded_iff hcodec]
        exact hended
      refine ⟨⟨?_, fun hstarts => (hnot (hstarts hgrows)).elim⟩,
        fun hstarts => (hnot (hstarts hgrows)).elim⟩
      intro hsurvives
      exact (hshows.lost hcodec hended hsurvives).elim

/-- The log survives all along a run of calls, however their appends are cut, just when every
append of the run that completes has started on a line of its own. -/
theorem auditSurvives_iff (hcodec : codec.Lawful) :
    Relation.ReflTransGen (fun s s' => AppendStep codec s s' ∧ s'.Survives codec) {} s ↔
      Relation.ReflTransGen (fun s s' => AppendStep codec s s' ∧ StartsLine s s') {} s := by
  have hstart : AuditFile.Shows codec {} [] ⟨[], false⟩ := by
    refine ⟨⟨rfl, ?_⟩, .empty, fun _ _ => Nat.zero_le 1⟩
    intro piece hmem
    cases hmem
  have hshows : ∀ s, Relation.ReflTransGen (fun s s' => AppendStep codec s s' ∧ StartsLine s s')
      {} s → ∃ pieces last, s.Shows codec pieces last := by
    intro s hrun
    induction hrun with
    | refl => exact ⟨_, _, hstart⟩
    | tail _ hstep ih =>
      obtain ⟨pieces, last, hbefore⟩ := ih
      exact (hstep.1.shows hbefore hcodec).2 hstep.2
  constructor
  · intro hrun
    induction hrun with
    | refl => exact .refl
    | tail _ hstep ih =>
      obtain ⟨pieces, last, hbefore⟩ := hshows _ ih
      exact ih.tail ⟨hstep.1, (hstep.1.shows hbefore hcodec).1.mp hstep.2⟩
  · intro hrun
    induction hrun with
    | refl => exact .refl
    | tail hbefore hstep ih =>
      obtain ⟨pieces, last, hshown⟩ := hshows _ hbefore
      exact ih.tail ⟨hstep.1, (hstep.1.shows hshown hcodec).1.mpr hstep.2⟩

def firstEvent : AuditEvent := { eventId := "event_1", createdRfc3339 := "", kind := "first" }

def secondEvent : AuditEvent := { eventId := "event_2", createdRfc3339 := "", kind := "second" }

/-- A log to which one record was appended. -/
noncomputable def wholeLog : AuditFile where
  data := auditText.line firstEvent
  calls := [.event firstEvent]
  completed := [firstEvent]

theorem auditSurvives_iff_wholeLog :
    (Relation.ReflTransGen (fun s s' => AppendStep auditText s s' ∧ s'.Survives auditText) {}
        wholeLog ↔
      Relation.ReflTransGen (fun s s' => AppendStep auditText s s' ∧ StartsLine s s') {}
        wholeLog) ∧
    Relation.ReflTransGen (fun s s' => AppendStep auditText s s' ∧ StartsLine s s') {} wholeLog :=
  ⟨auditSurvives_iff auditText_lawful,
    .single ⟨.complete (.event firstEvent) firstEvent rfl, fun _ => .inl rfl⟩⟩

/-- A log to which a record was appended after the first byte of another one. -/
noncomputable def tornLog : AuditFile where
  data := [openBrace] ++ auditText.line secondEvent
  calls := [.event firstEvent, .event secondEvent]
  completed := [secondEvent]

/-- The record that was appended behind the torn one is lost. -/
theorem tornLog_lost : Relation.ReflTransGen (AppendStep auditText) {} tornLog ∧
    ¬tornLog.Survives auditText := by
  have hleads : [openBrace] <+: auditText.line firstEvent := ⟨_, rfl⟩
  have hpiece : [openBrace] <+: auditText.serialize firstEvent := ⟨_, rfl⟩
  have hwhole : [openBrace] ≠ auditText.serialize firstEvent := by
    intro heq
    exact absurd (List.cons.inj heq).2.symm (List.append_ne_nil_of_right_ne_nil _ (by simp))
  have hcut : AppendStep auditText {} { data := [openBrace], calls := [.event firstEvent] } := by
    apply AppendStep.cut (.event firstEvent) firstEvent [openBrace] rfl hleads
    intro heq
    exact absurd (List.cons.inj heq).2.symm (List.append_ne_nil_of_right_ne_nil _ (by simp))
  have hshows : AuditFile.Shows auditText { data := [openBrace], calls := [.event firstEvent] }
      [[openBrace]] ⟨[], true⟩ := by
    refine ⟨⟨rfl, ?_⟩, .cut firstEvent _ hpiece hwhole, fun _ _ => Nat.zero_le 1⟩
    intro piece hmem
    rw [List.mem_singleton.mp hmem]
    exact ⟨List.cons_ne_nil _ _, firstEvent, hpiece⟩
  refine ⟨.tail (.single hcut) (.complete (.event secondEvent) secondEvent rfl), ?_⟩
  exact hshows.lost auditText_lawful (List.cons_ne_nil _ _)

end Runs
end AgentFirstMail
