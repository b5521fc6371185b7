import AgentFirstMail.Templates.Filters

namespace AgentFirstMail
open Lines Text

section Fence
variable {value : List Char} {n : Nat}

/-- What a scan for backticks knows of the text behind it. -/
structure FenceScan.Knows (scan : FenceScan) (value : List Char) : Prop where
  runs : ∀ n, List.replicate n '`' <:+: value → n ≤ scan.maxRun
  last : ∀ n, List.replicate n '`' <:+ value → n ≤ scan.current

theorem FenceScan.Knows.start : FenceScan.Knows {} [] := by
  have hempty (n : Nat) (h : List.replicate n '`' = []) : n ≤ 0 := by
    simpa using h
  exact ⟨fun n h => hempty n (List.infix_nil.mp h), fun n h => hempty n (List.suffix_nil.mp h)⟩

theorem replicate_suffix_concat {c : Char} (h : List.replicate (n + 1) '`' <:+ value ++ [c]) :
    c = '`' ∧ List.replicate n '`' <:+ value := by
  rw [List.replicate_succ'] at h
  obtain ⟨front, hfront⟩ := h
  rw [← List.append_assoc] at hfront
  obtain ⟨hvalue, hlast⟩ := List.append_inj' hfront rfl
  cases hlast
  exact ⟨rfl, front, hvalue⟩

theorem FenceScan.Knows.step {scan : FenceScan} (h : scan.Knows value) (c : Char) :
    (scan.step c).Knows (value ++ [c]) := by
  have hlast (n : Nat) (hsuffix : List.replicate n '`' <:+ value ++ [c]) :
      n ≤ (scan.step c).current := by
    cases n with
    | zero => exact Nat.zero_le _
    | succ n =>
      obtain ⟨rfl, hrun⟩ := replicate_suffix_concat hsuffix
      rw [FenceScan.step, if_pos rfl]
      exact Nat.succ_le_succ (h.last n hrun)
  have hgrows : scan.maxRun ≤ (scan.step c).maxRun ∧
      (scan.step c).current ≤ (scan.step c).maxRun := by
    rw [FenceScan.step]
    split
    · exact ⟨le_max_left _ _, le_max_right _ _⟩
    · exact ⟨le_rfl, Nat.zero_le _⟩
  refine ⟨fun n hrun => ?_, hlast⟩
  obtain hsuffix | hinfix := List.infix_concat_iff.mp hrun
  · exact (hlast n hsuffix).trans hgrows.2
  · exact (h.runs n hinfix).trans hgrows.1

theorem knows_foldl {scan : FenceScan} (h : scan.Knows value) (rest : List Char) :
    (rest.foldl FenceScan.step scan).Knows (value ++ rest) := by
  induction rest generalizing scan value with
  | nil => rwa [List.append_nil]
  | cons c rest ih =>
    rw [List.foldl_cons, List.append_cons]
    exact ih (h.step c)

theorem exists_fence (value : List Char) : ∃ length,
    templateMarkdownFenceFilter value = List.replicate length '`' ∧
      ∀ n, List.replicate n '`' <:+: value → n < length := by
  refine ⟨_, rfl, fun n h => ?_⟩
  have hscan := (knows_foldl .start value).runs n h
  omega

end Fence

section Trimmed
variable {value : List Char} {c : Char}

theorem mem_of_mem_trim (h : c ∈ trim value) : c ∈ value := by
  obtain ⟨trail, heq, _⟩ := trimMatches_split isWhitespace value
  rw [heq]
  exact List.mem_append_left _ (List.mem_append_right _ h)

theorem not_mem_withoutLineBreaks (h : c ∈ withoutLineBreaks value) : c ≠ '\r' ∧ c ≠ '\n' := by
  obtain ⟨d, _, rfl⟩ := List.mem_map.mp h
  split
  · decide
  · rename_i hother
    exact not_or.mp hother

theorem mem_codeFilter (h : c ∈ templateMarkdownCodeFilter value) :
    c ≠ '`' ∧ c ≠ '\r' ∧ c ≠ '\n' := by
  obtain ⟨d, hmem, rfl⟩ := List.mem_map.mp h
  have hbreaks := not_mem_withoutLineBreaks (mem_of_mem_trim hmem)
  split
  · decide
  · rename_i hother
    exact ⟨hother, hbreaks⟩

end Trimmed

section Table
variable {value text lead trail : List Char} {c : Char}

/-- Whether a text escapes a pipe itself: one that stands behind a backslash which is not
escaped. -/
def escapesPipe : List Char → Bool
  | [] => false
  | '\\' :: rest => match rest with
    | [] => false
    | c :: rest => c == '|' || escapesPipe rest
  | _ :: rest => escapesPipe rest

theorem mem_escapePipe {d : Char} (h : d ∈ escapePipe c) : d = c ∨ d = '\\' := by
  rw [escapePipe] at h
  split at h
  · rename_i hpipe
    simp only [List.mem_cons, List.not_mem_nil, or_false] at h
    rw [hpipe]
    exact h.symm
  · exact .inl (List.mem_singleton.mp h)

theorem mem_tableFilter (h : c ∈ templateMarkdownTableFilter value) : c ≠ '\r' ∧ c ≠ '\n' := by
  obtain ⟨d, hd, hmem⟩ := List.mem_flatMap.mp (mem_of_mem_trim h)
  obtain rfl | rfl := mem_escapePipe hmem
  · exact not_mem_withoutLineBreaks hd
  · decide

theorem hasBorder_cons (hslash : c ≠ '\\') : hasBorder (c :: text) = (c == '|' || hasBorder text) := by
  rw [hasBorder]
  simpa using hslash

theorem hasBorder_escape (c : Char) : hasBorder ('\\' :: c :: text) = hasBorder text := rfl

theorem not_slash_of_isWhitespace (h : isWhitespace c = true) : c ≠ '\\' ∧ (c == '|') = false := by
  rw [beq_eq_false_iff_ne]
  constructor
  · rintro rfl
    cases h
  · rintro rfl
    cases h

theorem hasBorder_append_left (hlead : ∀ c ∈ lead, isWhitespace c = true) :
    hasBorder (lead ++ text) = hasBorder text := by
  induction lead with
  | nil => rfl
  | cons c rest ih =>
    obtain ⟨hfirst, hrest⟩ := List.forall_mem_cons.mp hlead
    obtain ⟨hslash, hpipe⟩ := not_slash_of_isWhitespace hfirst
    rw [List.cons_append, hasBorder_cons hslash, hpipe, ih hrest, Bool.false_or]

theorem hasBorder_append_right (htrail : ∀ c ∈ trail, isWhitespace c = true) :
    hasBorder (text ++ trail) = hasBorder text := by
  induction text using hasBorder.induct with
  | case1 =>
    have htext : hasBorder (trail ++ []) = hasBorder [] := hasBorder_append_left htrail
    rwa [List.append_nil] at htext
  | case2 =>
    cases trail with
    | nil => rfl
    | cons c rest =>
      have hrest : hasBorder (rest ++ []) = hasBorder [] :=
        hasBorder_append_left (List.forall_mem_cons.mp htrail).2
      rw [List.append_nil] at hrest
      exact hrest
  | case3 c rest ih => exact ih
  | case4 c rest hslash ih =>
    have hslash : c ≠ '\\' := by simpa using hslash
    rw [List.cons_append, hasBorder_cons hslash, hasBorder_cons hslash, ih]

theorem hasBorder_trim (text : List Char) : hasBorder (trim text) = hasBorder text := by
  obtain ⟨trail, heq, htrail⟩ := trimMatches_split isWhitespace text
  have hlead : ∀ c ∈ text.takeWhile isWhitespace, isWhitespace c = true :=
    fun _ => List.mem_takeWhile_imp
  conv => rhs; rw [heq, List.append_assoc, hasBorder_append_left hlead, hasBorder_append_right htrail]
  rfl

theorem escapesPipe_cons (hslash : c ≠ '\\') : escapesPipe (c :: text) = escapesPipe text := by
  rw [escapesPipe]
  simpa using hslash

theorem hasBorder_flatMap (text : List Char) :
    hasBorder (text.flatMap escapePipe) = escapesPipe text := by
  have hother {c : Char} (hpipe : c ≠ '|') : escapePipe c = [c] := if_neg hpipe
  induction text using escapesPipe.induct with
  | case1 => rfl
  | case2 => rfl
  | case3 c rest ih =>
    rw [List.flatMap_cons, hother (by decide), List.flatMap_cons, escapesPipe]
    by_cases hpipe : c = '|'
    · rw [hpipe]
      rfl
    · rw [hother hpipe, List.singleton_append, List.singleton_append, hasBorder_escape, ih,
        beq_eq_false_iff_ne.mpr hpipe, Bool.false_or]
  | case4 c rest hslash ih =>
    have hslash : c ≠ '\\' := by simpa using hslash
    rw [List.flatMap_cons, escapesPipe_cons hslash, ← ih]
    by_cases hpipe : c = '|'
    · rw [hpipe]
      rfl
    · rw [hother hpipe, List.singleton_append, hasBorder_cons hslash,
        beq_eq_false_iff_ne.mpr hpipe, Bool.false_or]

theorem escapesPipe_withoutLineBreaks (value : List Char) :
    escapesPipe (withoutLineBreaks value) = escapesPipe value := by
  have hsame (c d : Char) (hd : d ≠ ' ') (hbreak : d ≠ '\r' ∧ d ≠ '\n') :
      (if c = '\r' ∨ c = '\n' then ' ' else c) = d ↔ c = d := by
    split
    · rename_i hc
      exact ⟨fun h => absurd h.symm hd, fun h => absurd (h ▸ hc) (not_or.mpr hbreak)⟩
    · rfl
  induction value using escapesPipe.induct with
  | case1 => rfl
  | case2 => rfl
  | case3 c rest ih =>
    have hpipe : ((if c = '\r' ∨ c = '\n' then ' ' else c) == '|') = (c == '|') := by
      rw [Bool.eq_iff_iff, beq_iff_eq, beq_iff_eq]
      exact hsame _ _ (by decide) (by decide)
    change (_ == '|' || escapesPipe (withoutLineBreaks rest)) = (c == '|' || escapesPipe rest)
    rw [hpipe, ih]
  | case4 c rest hslash ih =>
    have hslash : c ≠ '\\' := by simpa using hslash
    rw [withoutLineBreaks, List.map_cons, escapesPipe_cons hslash, escapesPipe_cons]
    · exact ih
    · rw [ne_eq, hsame _ _ (by decide) (by decide)]
      exact hslash

theorem hasBorder_tableFilter (value : List Char) :
    hasBorder (templateMarkdownTableFilter value) = escapesPipe value := by
  rw [templateMarkdownTableFilter, hasBorder_trim, hasBorder_flatMap, escapesPipe_withoutLineBreaks]

end Table
section Quote
variable {line text rest : List Char} {lines : List (List Char)} {c : Char}

/-- The lines that a text has, as an iteration over lines gives them. -/
def linesOf (value : List Char) : List (List Char) := (splitInclusive '\n' value).map linesItem

/-- What stands behind a carriage return within a line looks like a quoted line itself. -/
def ReturnsQuoted (line : List Char) : Prop := ∀ c, ['\r', c] <:+: line → c = '>'

/-- Every line of a text is quoted. -/
def Quoted (text : List Char) : Prop := ∀ line ∈ markdownLines text, line.head? = some '>'

/-- Every line of a text is quoted but perhaps the one it starts in. -/
def QuotedOn (text : List Char) : Prop := ∀ line ∈ (markdownLines text).tail, line.head? = some '>'

theorem quotedOn_nil : QuotedOn [] := List.forall_mem_nil _

theorem quotedOn_crlf : QuotedOn ('\r' :: '\n' :: text) ↔ Quoted text := by
  rw [QuotedOn, markdownLines]
  rfl

theorem quotedOn_ending (hending : c = '\n' ∨ c = '\r') (hcrlf : ∀ more, c = '\r' → text ≠ '\n' :: more) :
    QuotedOn (c :: text) ↔ Quoted text := by
  rw [QuotedOn, markdownLines, if_pos hending]
  · rfl
  · exact hcrlf

theorem markdownLines_cons (text : List Char) (hplain : ¬(c = '\n' ∨ c = '\r')) : ∃ line,
    markdownLines (c :: text) = (c :: line) :: (markdownLines text).tail := by
  rw [markdownLines, if_neg hplain]
  · cases markdownLines text with
    | nil => exact ⟨[], rfl⟩
    | cons line lines => exact ⟨line, rfl⟩
  · exact fun _ hreturn => absurd (.inr hreturn) hplain

theorem quotedOn_cons (hplain : ¬(c = '\n' ∨ c = '\r')) : QuotedOn (c :: text) ↔ QuotedOn text := by
  obtain ⟨line, hlines⟩ := markdownLines_cons text hplain
  rw [QuotedOn, hlines]
  rfl

theorem quoted_cons (hplain : ¬(c = '\n' ∨ c = '\r')) :
    Quoted (c :: text) ↔ c = '>' ∧ QuotedOn text := by
  obtain ⟨line, hlines⟩ := markdownLines_cons text hplain
  rw [Quoted, hlines, List.forall_mem_cons, List.head?_cons, Option.some.injEq]
  rfl

theorem not_quoted_ending (hending : c = '\n' ∨ c = '\r') : ¬Quoted (c :: text) := by
  have hlines : ∃ lines, markdownLines (c :: text) = [] :: lines := by
    by_cases hcrlf : ∃ more, c = '\r' ∧ text = '\n' :: more
    · obtain ⟨more, rfl, rfl⟩ := hcrlf
      exact ⟨markdownLines more, by rw [markdownLines]⟩
    · refine ⟨markdownLines text, ?_⟩
      rw [markdownLines, if_pos hending]
      exact fun more hreturn htext => hcrlf ⟨more, hreturn, htext⟩
  obtain ⟨lines, hlines⟩ := hlines
  intro h
  rw [Quoted, hlines] at h
  cases h [] List.mem_cons_self

theorem returnsQuoted_cons (c : Char) (line : List Char) :
    ReturnsQuoted (c :: line) ↔ (c = '\r' → ∀ d ∈ line.head?, d = '>') ∧ ReturnsQuoted line := by
  constructor
  · intro h
    refine ⟨?_, fun d hinfix => h d (List.infix_cons hinfix)⟩
    rintro rfl d hhead
    obtain ⟨rest, rfl⟩ := List.head?_eq_some_iff.mp hhead
    exact h d ⟨[], rest, rfl⟩
  · intro ⟨hfirst, hrest⟩ d hinfix
    obtain hprefix | hinfix := List.infix_cons_iff.mp hinfix
    · obtain ⟨rfl, more, rfl⟩ := List.cons_prefix_cons.mp hprefix
      exact hfirst rfl d rfl
    · exact hrest d hinfix

theorem returnsQuoted_nil : ReturnsQuoted [] := by
  intro c h
  cases List.infix_nil.mp h

theorem quotedOn_return (hc : c ≠ '\n') :
    QuotedOn ('\r' :: c :: text) ↔ c = '>' ∧ QuotedOn (c :: text) := by
  have hcrlf (more : List Char) (_ : '\r' = '\r') : c :: text ≠ '\n' :: more := by
    intro heq
    exact hc (List.cons.inj heq).1
  rw [quotedOn_ending (.inr rfl) hcrlf]
  by_cases hreturn : c = '\r'
  · rw [hreturn]
    exact ⟨fun h => absurd h (not_quoted_ending (.inr rfl)), fun h => absurd h.1 (by decide)⟩
  · have hplain : ¬(c = '\n' ∨ c = '\r') := not_or.mpr ⟨hc, hreturn⟩
    rw [quoted_cons hplain, quotedOn_cons hplain]

/-- A quoted line goes on as the text behind it says. -/
theorem quotedOn_append (hline : '\n' ∉ line) (hrest : rest = [] ∨ ∃ more, rest = '\n' :: more) :
    QuotedOn (line ++ rest) ↔ ReturnsQuoted line ∧ QuotedOn rest := by
  induction line with
  | nil =>
    rw [List.nil_append]
    exact ⟨fun h => ⟨returnsQuoted_nil, h⟩, And.right⟩
  | cons c line ih =>
    rw [List.mem_cons, not_or] at hline
    have ih := ih hline.2
    rw [returnsQuoted_cons]
    by_cases hreturn : c = '\r'
    · rw [hreturn]
      cases line with
      | nil =>
        have hending : QuotedOn ('\r' :: rest) ↔ QuotedOn rest := by
          obtain rfl | ⟨more, rfl⟩ := hrest
          · exact ⟨fun _ => quotedOn_nil, fun _ => List.forall_mem_nil _⟩
          · rw [quotedOn_crlf, quotedOn_ending (.inl rfl)]
            exact fun _ heq => absurd heq (by decide)
        exact hending.trans
          ⟨fun h => ⟨⟨fun _ _ hmem => (nomatch hmem), returnsQuoted_nil⟩, h⟩, And.right⟩
      | cons d line =>
        have hd : d ≠ '\n' := fun heq => hline.2 (heq ▸ List.mem_cons_self)
        rw [List.cons_append, List.cons_append, quotedOn_return hd, ← List.cons_append, ih]
        constructor
        · intro ⟨hquoted, hrest⟩
          refine ⟨⟨fun _ e he => ?_, hrest.1⟩, hrest.2⟩
          cases he
          exact hquoted
        · intro ⟨⟨hquoted, hline⟩, hrest⟩
          exact ⟨hquoted rfl d rfl, hline, hrest⟩
    · rw [List.cons_append, quotedOn_cons (not_or.mpr ⟨Ne.symm hline.1, hreturn⟩), ih]
      exact ⟨fun h => ⟨⟨fun heq => absurd heq hreturn, h.1⟩, h.2⟩, fun h => ⟨h.1.2, h.2⟩⟩

theorem quoted_quoteLine (hline : '\n' ∉ line) (hrest : rest = [] ∨ ∃ more, rest = '\n' :: more) :
    Quoted (quoteLine line ++ rest) ↔ ReturnsQuoted line ∧ QuotedOn rest := by
  rw [quoteLine]
  split
  · rename_i hempty
    rw [hempty, List.singleton_append, quoted_cons (by decide)]
    exact ⟨fun h => ⟨returnsQuoted_nil, h.2⟩, fun h => ⟨rfl, h.2⟩⟩
  · rw [List.cons_append, quoted_cons (by decide), List.cons_append, quotedOn_cons (by decide),
      quotedOn_append hline hrest]
    exact ⟨And.right, fun h => ⟨rfl, h⟩⟩

theorem quoted_intercalate (h : ∀ line ∈ lines, '\n' ∉ line) :
    Quoted (List.intercalate ['\n'] (lines.map quoteLine)) ↔ ∀ line ∈ lines, ReturnsQuoted line := by
  induction lines with
  | nil => exact ⟨fun _ => List.forall_mem_nil _, fun _ => List.forall_mem_nil _⟩
  | cons line lines ih =>
    obtain ⟨hline, hlines⟩ := List.forall_mem_cons.mp h
    rw [List.forall_mem_cons, ← ih hlines]
    cases lines with
    | nil =>
      have hlast := quoted_quoteLine hline (.inl rfl)
      rw [List.append_nil] at hlast
      rw [List.map_singleton, List.intercalate_singleton]
      refine hlast.trans (and_congr_right fun _ => ?_)
      exact ⟨fun _ => List.forall_mem_nil _, fun _ => quotedOn_nil⟩
    | cons next lines =>
      rw [List.map_cons, List.map_cons, List.intercalate_cons_cons, List.append_assoc,
        List.singleton_append, quoted_quoteLine hline (.inr ⟨_, rfl⟩), quotedOn_ending (.inl rfl)]
      exact fun _ heq => absurd heq (by decide)

theorem not_mem_linesItem {segment : List Char} (h : segment ∈ splitInclusive '\n' text) :
    '\n' ∉ linesItem segment := by
  obtain hline | hlast := List.mem_append.mp h
  · obtain ⟨content, hcontent, rfl⟩ := isLine_of_mem_complete List.not_mem_nil hline
    rw [linesItem, if_pos List.getLast?_concat, lineText, stripSuffix, stripSuffix,
      if_pos List.getLast?_concat, List.dropLast_concat]
    split
    · exact fun hmem => hcontent (List.dropLast_subset _ hmem)
    · exact hcontent
  · have hfree : '\n' ∉ segment := by
      rw [lastSegment] at hlast
      split at hlast
      · cases hlast
      · rw [List.mem_singleton.mp hlast]
        exact not_mem_unfinished List.not_mem_nil
    rw [linesItem, if_neg]
    · exact hfree
    · exact fun hend => hfree (List.mem_of_getLast? hend)

theorem quoted_quoteFilter (value : List Char) :
    Quoted (templateMarkdownQuoteFilter value) ↔ ∀ line ∈ linesOf value, ReturnsQuoted line := by
  refine quoted_intercalate fun line hmem => ?_
  obtain ⟨segment, hsegment, rfl⟩ := List.mem_map.mp hmem
  exact not_mem_linesItem hsegment

end Quote
section Yaml
variable {value : List Char}

/-- A value as a scalar can hold it. -/
def withoutControls (value : List Char) : List Char :=
  value.map fun c => if c ≠ '\n' ∧ c ≠ '\r' ∧ c ≠ '\t' ∧ isControl c = true then ' ' else c

theorem yamlContent_plain {c : Char} {rest : List Char} (hquote : c ≠ '"') (hslash : c ≠ '\\')
    (hcontrol : 0x20 ≤ c.toNat) : yamlContent (c :: rest) = (c :: ·) <$> yamlContent rest := by
  rw [yamlContent, if_pos (.inr hcontrol)]
  · exact hquote
  · exact hslash

theorem toNat_of_not_control {c : Char} (h : ¬isControl c = true) : 0x20 ≤ c.toNat := by
  simp [isControl] at h
  omega

theorem yamlContent_escaped (value : List Char) :
    yamlContent (value.flatMap yamlEscape ++ ['"']) = some (withoutControls value) := by
  induction value with
  | nil => rfl
  | cons c rest ih =>
    rw [List.flatMap_cons, List.append_assoc, withoutControls, List.map_cons]
    rw [withoutControls] at ih
    rw [yamlEscape.eq_def]
    split
    · simp [yamlContent, yamlUnescape, ih]
      decide
    · simp [yamlContent, yamlUnescape, ih]
      decide
    · simp [yamlContent, yamlUnescape, ih]
    · simp [yamlContent, yamlUnescape, ih]
    · simp [yamlContent, yamlUnescape, ih]
    · rename_i hslash hquote hline hreturn htab
      split
      · rename_i hcontrol
        rw [if_pos ⟨hline, hreturn, htab, hcontrol⟩, List.singleton_append,
          yamlContent_plain (by decide) (by decide) (by decide), ih]
        rfl
      · rename_i hcontrol
        rw [if_neg fun h => hcontrol h.2.2.2, List.singleton_append,
          yamlContent_plain hquote hslash (toNat_of_not_control hcontrol), ih]
        rfl

theorem yamlScalar_filter (value : List Char) :
    yamlScalar (templateYamlFilter value) = some (withoutControls value) := yamlContent_escaped value

end Yaml

/-- A value stays inside of what the filters put it in. -/
structure Contained (value : List Char) : Prop where
  fence : ∃ length, templateMarkdownFenceFilter value = List.replicate length '`' ∧
    ∀ n, List.replicate n '`' <:+: value → n < length
  quote : ∀ line ∈ markdownLines (templateMarkdownQuoteFilter value), line.head? = some '>'
  code : ∀ c ∈ templateMarkdownCodeFilter value, c ≠ '`' ∧ c ≠ '\r' ∧ c ≠ '\n'
  table : hasBorder (templateMarkdownTableFilter value) = false
  row : ∀ c ∈ templateMarkdownTableFilter value, c ≠ '\r' ∧ c ≠ '\n'
  yaml : yamlScalar (templateYamlFilter value) = some (withoutControls value)

/-- A value is contained unless it goes on behind a carriage return or escapes a pipe. -/
theorem contained_iff (value : List Char) : Contained value ↔
    (∀ line ∈ linesOf value, ReturnsQuoted line) ∧ escapesPipe value = false := by
  rw [← quoted_quoteFilter, ← hasBorder_tableFilter]
  constructor
  · exact fun h => ⟨h.quote, h.table⟩
  · intro ⟨hquote, htable⟩
    exact {
      fence := exists_fence value
      quote := hquote
      code := fun _ => mem_codeFilter
      table := htable
      row := fun _ => mem_tableFilter
      yaml := yamlScalar_filter value }

/-- The second half of a value is read as a line of its own. -/
theorem contained_leaves_quote : ¬Contained "a\rb".toList := by
  intro h
  have hquote := h.quote
  revert hquote
  decide

end AgentFirstMail
