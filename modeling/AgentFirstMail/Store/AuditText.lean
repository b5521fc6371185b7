import AgentFirstMail.Store.AuditFile

namespace AgentFirstMail
open Bytes

section Separates
variable {code : α → List β}

/-- A code of which a text shows where each value ends. -/
def Separates (code : α → List β) : Prop :=
  ∀ a b rest rest', code a ++ rest = code b ++ rest' → a = b ∧ rest = rest'

theorem Separates.injective (hcode : Separates code) : Function.Injective code := by
  intro a b heq
  exact (hcode a b [] [] (congrArg (· ++ []) heq)).1

theorem Separates.const_append (hcode : Separates code) (text : List β) :
    Separates fun a => text ++ code a := by
  intro a b rest rest' heq
  rw [List.append_assoc, List.append_assoc] at heq
  exact hcode a b rest rest' (List.append_cancel_left heq)

theorem Separates.append_const (hcode : Separates code) (text : List β) :
    Separates fun a => code a ++ text := by
  intro a b rest rest' heq
  rw [List.append_assoc, List.append_assoc] at heq
  obtain ⟨hsame, hrest⟩ := hcode a b _ _ heq
  exact ⟨hsame, List.append_cancel_left hrest⟩

theorem Separates.prod {other : γ → List β} (hcode : Separates code) (hother : Separates other) :
    Separates fun pair : α × γ => code pair.1 ++ other pair.2 := by
  intro a b rest rest' heq
  rw [List.append_assoc, List.append_assoc] at heq
  obtain ⟨hfirst, heq⟩ := hcode a.1 b.1 _ _ heq
  obtain ⟨hsecond, hrest⟩ := hother a.2 b.2 _ _ heq
  exact ⟨Prod.ext hfirst hsecond, hrest⟩

theorem Separates.comp {field : γ → α} (hcode : Separates code) (hfield : Function.Injective field) :
    Separates fun c => code (field c) := by
  intro a b rest rest' heq
  obtain ⟨hsame, hrest⟩ := hcode _ _ _ _ heq
  exact ⟨hfield hsame, hrest⟩

/-- A list is read up to a symbol that no value begins with. -/
theorem Separates.list (hcode : Separates code) {stop : β}
    (hstop : ∀ a, ∃ first others, code a = first :: others ∧ first ≠ stop) :
    Separates fun items : List α => items.flatMap code ++ [stop] := by
  have hnot : ∀ a more rest, code a ++ more ≠ stop :: rest := by
    intro a more rest heq
    obtain ⟨first, others, hfirst, hne⟩ := hstop a
    rw [hfirst, List.cons_append] at heq
    exact hne (List.cons.inj heq).1
  have hlist : ∀ (left right : List α) (rest rest' : List β),
      left.flatMap code ++ stop :: rest = right.flatMap code ++ stop :: rest' →
      left = right ∧ rest = rest' := by
    intro left
    induction left with
    | nil =>
      intro right rest rest' heq
      cases right with
      | nil => exact ⟨rfl, (List.cons.inj heq).2⟩
      | cons a others =>
        rw [List.flatMap_cons, List.append_assoc] at heq
        exact (hnot a _ _ heq.symm).elim
    | cons a others ih =>
      intro right rest rest' heq
      cases right with
      | nil =>
        rw [List.flatMap_cons, List.append_assoc] at heq
        exact (hnot a _ _ heq).elim
      | cons b others' =>
        rw [List.flatMap_cons, List.flatMap_cons, List.append_assoc, List.append_assoc] at heq
        obtain ⟨rfl, hmore⟩ := hcode a b _ _ heq
        obtain ⟨rfl, hrest⟩ := ih others' rest rest' hmore
        exact ⟨rfl, hrest⟩
  intro left right rest rest' heq
  apply hlist left right rest rest'
  rw [List.append_assoc, List.append_assoc] at heq
  exact heq

end Separates

/-- Bytes that an object written on one line has between its braces. -/
def IsInner (byte : UInt8) : Bool :=
  byte != newline && byte != openBrace && byte != closeBrace

def asciiBytes (text : String) : Bytes := text.toList.map fun c => c.toNat.toUInt8

def quote : UInt8 := 34

def backslash : UInt8 := 92

/-- A character that JSON text shows as it is, and that is no brace. -/
def isPlain (c : Char) : Bool :=
  0x20 ≤ c.toNat && c.toNat < 0x7f && c != '"' && c != '\\' && c.toNat != 123 && c.toNat != 125

/-- A plain character stands for itself, another one is counted out behind a backslash. -/
def escapeChar (c : Char) : Bytes :=
  if isPlain c then [c.toNat.toUInt8] else backslash :: (List.replicate c.toNat 97 ++ [59])

def quoted (text : String) : Bytes := text.toList.flatMap escapeChar ++ [quote]

/-- What a record says before its targets. -/
def reasonText : Option String → Bytes
  | none => asciiBytes ",\"targets\":["
  | some reason => asciiBytes ",\"reason\":\"" ++ (quoted reason ++ asciiBytes ",\"targets\":[")

def targetText (target : String × String) : Bytes :=
  asciiBytes "[\"" ++ (quoted target.1 ++ (asciiBytes ",\"" ++ (quoted target.2 ++ asciiBytes "],")))

/-- The members of a record in the order of their names. -/
def recordText (event : AuditEvent) : Bytes :=
  asciiBytes "\"actor\":\"cli\",\"code\":\"afmail_event\",\"created_rfc3339\":\"" ++
    (quoted event.createdRfc3339 ++ (asciiBytes ",\"event_id\":\"" ++ (quoted event.eventId ++
      (asciiBytes ",\"kind\":\"" ++ (quoted event.kind ++ (reasonText event.reason ++
        (event.targets.flatMap targetText ++ [93])))))))

section Text

theorem separates_replicate (byte stop : UInt8) (hne : byte ≠ stop) :
    Separates fun n : Nat => List.replicate n byte ++ [stop] := by
  intro n m rest rest' heq
  rw [List.append_assoc, List.append_assoc] at heq
  induction n generalizing m with
  | zero =>
    cases m with
    | zero => exact ⟨rfl, (List.cons.inj heq).2⟩
    | succ m =>
      rw [List.replicate_succ, List.cons_append] at heq
      exact (hne (List.cons.inj heq).1.symm).elim
  | succ n ih =>
    cases m with
    | zero =>
      rw [List.replicate_succ, List.cons_append] at heq
      exact (hne (List.cons.inj heq).1).elim
    | succ m =>
      rw [List.replicate_succ, List.replicate_succ, List.cons_append, List.cons_append] at heq
      obtain ⟨hsame, hrest⟩ := ih m (List.cons.inj heq).2
      exact ⟨congrArg Nat.succ hsame, hrest⟩

theorem isPlain_iff {c : Char} : isPlain c = true ↔ 0x20 ≤ c.toNat ∧ c.toNat < 0x7f ∧
    c ≠ '"' ∧ c ≠ '\\' ∧ c.toNat ≠ 123 ∧ c.toNat ≠ 125 := by
  simp [isPlain, and_assoc]

theorem plain_byte {c : Char} (hplain : isPlain c = true) : c.toNat.toUInt8.toNat = c.toNat := by
  obtain ⟨_, hbound, _⟩ := isPlain_iff.mp hplain
  rw [Nat.toUInt8, UInt8.toNat_ofNat']
  omega

theorem plain_ne {c : Char} (hplain : isPlain c = true) {other : UInt8}
    (hne : c.toNat ≠ other.toNat) : c.toNat.toUInt8 ≠ other := by
  intro heq
  rw [← heq, plain_byte hplain] at hne
  exact hne rfl

theorem plain_ne_quote {c : Char} (hplain : isPlain c = true) : c.toNat.toUInt8 ≠ quote := by
  apply plain_ne hplain
  intro heq
  apply (isPlain_iff.mp hplain).2.2.1
  exact Char.toNat_inj.mp heq

theorem plain_ne_backslash {c : Char} (hplain : isPlain c = true) :
    c.toNat.toUInt8 ≠ backslash := by
  apply plain_ne hplain
  intro heq
  apply (isPlain_iff.mp hplain).2.2.2.1
  exact Char.toNat_inj.mp heq

theorem separates_escapeChar : Separates escapeChar := by
  intro c d rest rest' heq
  unfold escapeChar at heq
  by_cases hc : isPlain c
  · by_cases hd : isPlain d
    · rw [if_pos hc, if_pos hd] at heq
      obtain ⟨hbyte, hrest⟩ := List.cons.inj heq
      refine ⟨?_, hrest⟩
      apply Char.toNat_inj.mp
      rw [← plain_byte hc, ← plain_byte hd, hbyte]
    · rw [if_pos hc, if_neg hd] at heq
      exact (plain_ne_backslash hc (List.cons.inj heq).1).elim
  · by_cases hd : isPlain d
    · rw [if_neg hc, if_pos hd] at heq
      exact (plain_ne_backslash hd (List.cons.inj heq).1.symm).elim
    · rw [if_neg hc, if_neg hd] at heq
      obtain ⟨hsame, hrest⟩ :=
        separates_replicate 97 59 (by decide) c.toNat d.toNat rest rest' (List.cons.inj heq).2
      exact ⟨Char.toNat_inj.mp hsame, hrest⟩

theorem separates_quoted : Separates quoted := by
  have hfirst : ∀ c, ∃ first others, escapeChar c = first :: others ∧ first ≠ quote := by
    intro c
    unfold escapeChar
    by_cases hplain : isPlain c
    · rw [if_pos hplain]
      exact ⟨_, [], rfl, plain_ne_quote hplain⟩
    · rw [if_neg hplain]
      exact ⟨_, _, rfl, by decide⟩
  exact (separates_escapeChar.list hfirst).comp fun _ _ => String.toList_inj.mp

theorem separates_reasonText : Separates reasonText := by
  have hsome : Separates fun reason : String =>
      asciiBytes ",\"reason\":\"" ++ (quoted reason ++ asciiBytes ",\"targets\":[") :=
    (separates_quoted.append_const _).const_append _
  have hdiffers : ∀ rest rest' : Bytes, asciiBytes ",\"targets\":[" ++ rest ≠
      asciiBytes ",\"reason\":\"" ++ rest' := by
    intro rest rest' heq
    have hthird := congrArg (·[2]?) heq
    cases hthird
  intro a b rest rest' heq
  cases a with
  | none =>
    cases b with
    | none => exact ⟨rfl, List.append_cancel_left heq⟩
    | some reason =>
      rw [reasonText, reasonText, List.append_assoc] at heq
      exact (hdiffers _ _ heq).elim
  | some reason =>
    cases b with
    | none =>
      rw [reasonText, reasonText, List.append_assoc] at heq
      exact (hdiffers _ _ heq.symm).elim
    | some other =>
      obtain ⟨rfl, hrest⟩ := hsome reason other rest rest' heq
      exact ⟨rfl, hrest⟩

theorem separates_targetText : Separates targetText := by
  have hsecond := ((separates_quoted.append_const (asciiBytes "],")).const_append
    (asciiBytes ",\""))
  exact (separates_quoted.prod hsecond).const_append _

theorem recordText_injective : Function.Injective recordText := by
  have htargets : Separates fun targets : List (String × String) =>
      targets.flatMap targetText ++ [93] := by
    apply separates_targetText.list
    intro target
    exact ⟨91, _, rfl, by decide⟩
  have htext := (separates_quoted.prod ((separates_quoted.prod
    ((separates_quoted.prod (separates_reasonText.prod htargets)).const_append
      (asciiBytes ",\"kind\":\""))).const_append (asciiBytes ",\"event_id\":\""))).const_append
    (asciiBytes "\"actor\":\"cli\",\"code\":\"afmail_event\",\"created_rfc3339\":\"")
  have hfields : Function.Injective fun event : AuditEvent =>
      (event.createdRfc3339, event.eventId, event.kind, event.reason, event.targets) := by
    intro a b heq
    cases a
    cases b
    simp_all
  exact (htext.comp hfields).injective

theorem isInner_quoted (text : String) : ∀ byte ∈ quoted text, IsInner byte = true := by
  have hchar : ∀ c, ∀ byte ∈ escapeChar c, IsInner byte = true := by
    intro c byte hmem
    unfold escapeChar at hmem
    by_cases hplain : isPlain c
    · rw [if_pos hplain, List.mem_singleton] at hmem
      subst hmem
      obtain ⟨hlow, _, _, _, hopen, hclose⟩ := isPlain_iff.mp hplain
      have hnewline : c.toNat.toUInt8 ≠ newline := by
        apply plain_ne hplain
        intro heq
        rw [heq] at hlow
        exact absurd hlow (by decide)
      have hopened : c.toNat.toUInt8 ≠ openBrace := plain_ne hplain hopen
      have hclosed : c.toNat.toUInt8 ≠ closeBrace := plain_ne hplain hclose
      simp [IsInner, hnewline, hopened, hclosed]
    · rw [if_neg hplain] at hmem
      rcases List.mem_cons.mp hmem with rfl | hmem
      · decide
      · rcases List.mem_append.mp hmem with hcount | hend
        · rw [(List.mem_replicate.mp hcount).2]
          decide
        · rw [List.mem_singleton.mp hend]
          decide
  intro byte hmem
  rcases List.mem_append.mp hmem with htext | hquote
  · obtain ⟨c, _, hbyte⟩ := List.mem_flatMap.mp htext
    exact hchar c byte hbyte
  · rw [List.mem_singleton.mp hquote]
    decide

theorem all_isInner_quoted (text : String) : (quoted text).all IsInner = true :=
  List.all_eq_true.mpr (isInner_quoted text)

theorem all_isInner_reasonText (reason : Option String) :
    (reasonText reason).all IsInner = true := by
  cases reason with
  | none => decide
  | some reason =>
    have hopens : (asciiBytes ",\"reason\":\"").all IsInner = true := by decide
    have hcloses : (asciiBytes ",\"targets\":[").all IsInner = true := by decide
    rw [reasonText, List.all_append, List.all_append, hopens, all_isInner_quoted, hcloses]
    rfl

theorem all_isInner_targetText (target : String × String) :
    (targetText target).all IsInner = true := by
  have hopens : (asciiBytes "[\"").all IsInner = true := by decide
  have hmiddle : (asciiBytes ",\"").all IsInner = true := by decide
  have hcloses : (asciiBytes "],").all IsInner = true := by decide
  simp only [targetText, List.all_append, hopens, hmiddle, hcloses, all_isInner_quoted,
    Bool.and_self]

theorem isInner_recordText (event : AuditEvent) :
    ∀ byte ∈ recordText event, IsInner byte = true := by
  have hcreated : (asciiBytes
      "\"actor\":\"cli\",\"code\":\"afmail_event\",\"created_rfc3339\":\"").all IsInner = true := by
    decide
  have hevent : (asciiBytes ",\"event_id\":\"").all IsInner = true := by decide
  have hkind : (asciiBytes ",\"kind\":\"").all IsInner = true := by decide
  have hcloses : ([93] : Bytes).all IsInner = true := by decide
  have htargets : (event.targets.flatMap targetText).all IsInner = true := by
    rw [List.all_flatMap, List.all_eq_true]
    exact fun target _ => all_isInner_targetText target
  apply List.all_eq_true.mp
  simp only [recordText, List.all_append, hcreated, hevent, hkind, hcloses, htargets,
    all_isInner_quoted, all_isInner_reasonText, Bool.and_self]

theorem filter_trimAsciiWhitespace {keep : UInt8 → Bool}
    (hkeep : ∀ byte, keep byte = true → isAsciiWhitespace byte = false) (line : Bytes) :
    (trimAsciiWhitespace line).filter keep = line.filter keep := by
  have hdrop : ∀ line : Bytes, (line.dropWhile isAsciiWhitespace).filter keep = line.filter keep := by
    intro line
    induction line with
    | nil => rfl
    | cons byte rest ih =>
      by_cases hspace : isAsciiWhitespace byte
      · have hnot : ¬keep byte = true := by
          intro hkept
          rw [hkeep byte hkept] at hspace
          cases hspace
        rw [List.dropWhile_cons_of_pos hspace, ih, List.filter_cons_of_neg hnot]
      · rw [List.dropWhile_cons_of_neg hspace]
  rw [trimAsciiWhitespace, List.rdropWhile, List.filter_reverse, hdrop, List.filter_reverse,
    List.reverse_reverse, hdrop]

end Text

open Classical in
/-- The records of an audit log as JSON objects without braces inside. -/
noncomputable def auditText : AuditCodec where
  serialize event := openBrace :: recordText event ++ [closeBrace]
  parse line :=
    if h : ∃ event, openBrace :: recordText event ++ [closeBrace] = line then .ok h.choose
    else .error "no record"

section Lawful
variable {event : AuditEvent} {piece : Bytes}

theorem auditText_parse_error {line : Bytes}
    (hline : ∀ event, openBrace :: recordText event ++ [closeBrace] ≠ line) :
    ∃ error, auditText.parse line = .error error := by
  refine ⟨_, dif_neg ?_⟩
  intro ⟨event, heq⟩
  exact hline event heq

theorem filter_inner {byte : UInt8} (hbyte : IsInner byte = false) (event : AuditEvent) :
    (recordText event).filter (· == byte) = [] := by
  rw [List.filter_eq_nil_iff]
  intro other hmem heq
  rw [beq_iff_eq] at heq
  have hinner := isInner_recordText event other hmem
  rw [heq, hbyte] at hinner
  cases hinner

theorem filter_openBrace_cons (rest : Bytes) :
    (openBrace :: rest).filter (· == openBrace) = openBrace :: rest.filter (· == openBrace) := rfl

theorem filter_openBrace (event : AuditEvent) :
    (openBrace :: recordText event ++ [closeBrace]).filter (· == openBrace) = [openBrace] := by
  rw [List.filter_append, filter_openBrace_cons, filter_inner (by decide) event]
  rfl

theorem filter_closeBrace (event : AuditEvent) :
    (openBrace :: recordText event ++ [closeBrace]).filter (· == closeBrace) = [closeBrace] := by
  rw [List.filter_append, List.filter_cons_of_neg (by decide), filter_inner (by decide) event]
  rfl

theorem brace_not_whitespace {brace : UInt8} (hbrace : isAsciiWhitespace brace = false) :
    ∀ byte, (byte == brace) = true → isAsciiWhitespace byte = false := by
  intro byte heq
  rw [beq_iff_eq] at heq
  rw [heq]
  exact hbrace

theorem piece_opens (hpiece : auditText.Piece piece) : ∃ rest, piece = openBrace :: rest := by
  obtain ⟨hne, event, more, hleads⟩ := hpiece
  cases piece with
  | nil => exact (hne rfl).elim
  | cons first rest =>
    change first :: rest ++ more = openBrace :: _ at hleads
    exact ⟨rest, by rw [(List.cons.inj hleads).1]⟩

theorem auditText_lawful : auditText.Lawful where
  braced event := ⟨recordText event, rfl⟩
  newline_free event := by
    intro hmem
    rcases List.mem_append.mp hmem with hopen | hclose
    · rcases List.mem_cons.mp hopen with heq | hinner
      · exact absurd heq (by decide)
      · exact absurd (isInner_recordText event newline hinner) (by decide)
    · exact absurd (List.mem_singleton.mp hclose) (by decide)
  parse_serialize event := by
    have hexists : ∃ other, openBrace :: recordText other ++ [closeBrace] =
        auditText.serialize event := ⟨event, rfl⟩
    have hchosen := hexists.choose_spec
    have hsame : hexists.choose = event := by
      apply recordText_injective
      exact List.append_cancel_right (List.cons.inj hchosen).2
    exact (dif_pos hexists).trans (congrArg Except.ok hsame)
  cut event piece _ hleads hwhole := by
    have hpart : piece <+: openBrace :: recordText event := by
      rcases List.prefix_concat_iff.mp hleads with heq | hpart
      · exact (hwhole heq).elim
      · exact hpart
    have hnone : piece.filter (· == closeBrace) = [] := by
      rw [List.filter_eq_nil_iff]
      intro byte hmem heq
      rw [beq_iff_eq] at heq
      rcases List.mem_cons.mp (hpart.subset hmem) with hopen | hinner
      · rw [heq] at hopen
        exact absurd hopen (by decide)
      · have hbyte := isInner_recordText event byte hinner
        rw [heq] at hbyte
        exact absurd hbyte (by decide)
    apply auditText_parse_error
    intro other heq
    have hfilter := filter_closeBrace other
    rw [heq, filter_trimAsciiWhitespace (brace_not_whitespace (by decide)), hnone] at hfilter
    cases hfilter
  joined pieces htwo hpieces := by
    apply auditText_parse_error
    intro other heq
    have hfilter := filter_openBrace other
    rw [heq, filter_trimAsciiWhitespace (brace_not_whitespace (by decide))] at hfilter
    obtain ⟨first, rest, rfl⟩ := List.exists_cons_of_length_pos (Nat.lt_of_lt_of_le Nat.one_pos
      (Nat.le_of_succ_le htwo))
    obtain ⟨second, others, rfl⟩ := List.exists_cons_of_length_pos (Nat.le_of_succ_le_succ htwo)
    obtain ⟨more, rfl⟩ := piece_opens (hpieces first List.mem_cons_self)
    obtain ⟨more', rfl⟩ :=
      piece_opens (hpieces second (List.mem_cons_of_mem _ List.mem_cons_self))
    have hlength := congrArg List.length hfilter
    rw [List.flatten_cons, List.flatten_cons, List.cons_append, filter_openBrace_cons,
      List.filter_append, List.cons_append, filter_openBrace_cons, List.length_cons,
      List.length_append, List.length_cons, List.length_singleton] at hlength
    omega

end Lawful
end AgentFirstMail
