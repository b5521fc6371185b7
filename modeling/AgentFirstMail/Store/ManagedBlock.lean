import AgentFirstMail.Data.Search
import AgentFirstMail.Error

namespace AgentFirstMail
open Search

structure ManagedBlockChange where
  created : Bool
  updated : Bool

/-- The lines around a block. -/
structure BlockMarkers where
  beginMarker : List Char
  endMarker : List Char

def afmailGitignoreMarkers : BlockMarkers where
  beginMarker := "# BEGIN afmail managed".toList
  endMarker := "# END afmail managed".toList

def managedBlockInvalid (path : String) : AppError :=
  { errorCode := "managed_block_invalid"
    message := s!"{path} has an afmail managed BEGIN marker without a matching END marker" }

section Lines

def trimLeadingLineEndings : List Char → List Char
  | '\r' :: '\n' :: rest => trimLeadingLineEndings rest
  | '\n' :: rest => trimLeadingLineEndings rest
  | value => value

/-- The line endings at the end of a text that is written backwards. -/
def trimTrailingLineEndings : List Char → List Char
  | '\n' :: '\r' :: rest => trimTrailingLineEndings rest
  | '\n' :: rest => trimTrailingLineEndings rest
  | value => value

def trimSurroundingLineEndings (value : List Char) : List Char :=
  (trimTrailingLineEndings (trimLeadingLineEndings value).reverse).reverse

def consumeOneLineEnding : List Char → List Char
  | '\r' :: '\n' :: rest => rest
  | '\n' :: rest => rest
  | value => value

/-- A text with a newline at its end. -/
def terminated (text : List Char) : List Char :=
  if ['\n'] <:+ text then text else text ++ ['\n']

/-- A text with an empty line after it, when there is a text. -/
def spaced (text : List Char) : List Char :=
  if text = [] then []
  else if ['\n', '\n'] <:+ terminated text then terminated text else terminated text ++ ['\n']

end Lines

section Blocks
variable (markers : BlockMarkers)

def renderManagedBlock (blockBody : List Char) : List Char :=
  terminated (markers.beginMarker ++ '\n' :: trimSurroundingLineEndings blockBody) ++
    markers.endMarker ++ ['\n']

def composeManagedBlockFile (defaultPrefix block : List Char) : List Char :=
  spaced defaultPrefix ++ block

def appendManagedBlock (existing block : List Char) : List Char := spaced existing ++ block

/-- A text with a block in the place of its first one, or at its end. -/
def updatedManagedBlock (path : String) (existing block : List Char) : Result (List Char) :=
  match breakOn markers.beginMarker existing with
  | none => .ok (appendManagedBlock existing block)
  | some (before, rest) =>
    match breakOn markers.endMarker rest with
    | none => .error (managedBlockInvalid path)
    | some (_, after) => .ok (before ++ block ++ consumeOneLineEnding after)

/-- The file is there with its content, or not at all. -/
def ensureManagedBlockFile (path : String) (defaultPrefix blockBody : List Char)
    (file : Option (List Char)) : Result ManagedBlockChange × Option (List Char) :=
  let block := renderManagedBlock markers blockBody
  match file with
  | none => (.ok ⟨true, false⟩, some (composeManagedBlockFile defaultPrefix block))
  | some existing =>
    match updatedManagedBlock markers path existing block with
    | .error error => (.error error, some existing)
    | .ok updated =>
      if updated = existing then (.ok ⟨false, false⟩, some existing)
      else (.ok ⟨false, true⟩, some updated)

end Blocks

/-- Markers are lines. -/
structure BlockMarkers.Lines (markers : BlockMarkers) : Prop where
  beginMarker : '\n' ∉ markers.beginMarker ∧ '\r' ∉ markers.beginMarker ∧ markers.beginMarker ≠ []
  endMarker : '\n' ∉ markers.endMarker ∧ markers.endMarker ≠ []

namespace BlockMarkers
variable (markers : BlockMarkers)

/-- What stands between the markers of a block. -/
def blockText (blockBody : List Char) : List Char :=
  terminated ('\n' :: trimSurroundingLineEndings blockBody)

/-- The blocks of a text, each from a begin marker to the next end marker, by what is between. -/
inductive Managed : List Char → List (List Char) → Prop
  | unmarked : breakOn markers.beginMarker text = none → Managed text []
  | unended : breakOn markers.beginMarker text = some (before, rest) →
      breakOn markers.endMarker rest = none → Managed text []
  | block : breakOn markers.beginMarker text = some (before, rest) →
      breakOn markers.endMarker rest = some (content, after) → Managed after contents →
      Managed text (content :: contents)

/-- What is before and after the first block of a text; the line ending of an end marker belongs
to its block, and a block is set off at the end of a text that has none. -/
inductive Outside : List Char → List Char → List Char → Prop
  | unmarked : breakOn markers.beginMarker text = none → Outside text (spaced text) []
  | marked : breakOn markers.beginMarker text = some (before, rest) →
      breakOn markers.endMarker rest = some (content, after) →
      Outside text before (consumeOneLineEnding after)

/-- The first begin marker of a text has no end marker after it. -/
def Unended (text : List Char) : Prop :=
  ∃ before rest, breakOn markers.beginMarker text = some (before, rest) ∧
    breakOn markers.endMarker rest = none

end BlockMarkers

section Texts
variable {pattern text : List Char}

theorem terminated_ends (text : List Char) : ∃ front, terminated text = front ++ ['\n'] := by
  unfold terminated
  split
  · rename_i hends
    obtain ⟨front, hfront⟩ := hends
    exact ⟨front, hfront.symm⟩
  · exact ⟨text, rfl⟩

theorem infix_of_concat {stop : Char} (hstop : stop ∉ pattern)
    (h : pattern <:+: text ++ [stop]) : pattern <:+: text := by
  rcases List.infix_concat_iff.mp h with hsuffix | hinfix
  · rcases List.suffix_concat_iff.mp hsuffix with rfl | ⟨front, rfl, _⟩
    · exact List.nil_infix
    · exact (hstop (List.mem_append_right _ List.mem_cons_self)).elim
  · exact hinfix

theorem infix_of_terminated (hline : '\n' ∉ pattern) (h : pattern <:+: terminated text) :
    pattern <:+: text := by
  unfold terminated at h
  split at h
  · exact h
  · exact infix_of_concat hline h

theorem infix_of_newline (hline : '\n' ∉ pattern) (h : pattern <:+: '\n' :: text) :
    pattern <:+: text := by
  rcases List.infix_cons_iff.mp h with hstarts | hinfix
  · rcases List.prefix_cons_iff.mp hstarts with rfl | ⟨rest, rfl, _⟩
    · exact List.nil_infix
    · exact (hline List.mem_cons_self).elim
  · exact hinfix

theorem spaced_ends (text : List Char) :
    spaced text = [] ∨ ∃ front, spaced text = front ++ ['\n'] := by
  unfold spaced
  split
  · exact .inl rfl
  · right
    split
    · exact terminated_ends text
    · exact ⟨_, rfl⟩

theorem spaced_eq (text : List Char) :
    ∃ gap ∈ [[], ['\n'], ['\n', '\n']], spaced text = text ++ gap := by
  unfold spaced terminated
  split
  · rename_i hempty
    exact ⟨[], by simp, by rw [hempty]; rfl⟩
  · split
    · split
      · exact ⟨[], by simp, (List.append_nil text).symm⟩
      · exact ⟨['\n'], by simp, rfl⟩
    · split
      · exact ⟨['\n'], by simp, rfl⟩
      · exact ⟨['\n', '\n'], by simp, List.append_assoc _ _ _⟩

theorem consumeOneLineEnding_eq (text : List Char) :
    ∃ ending ∈ [[], ['\n'], ['\r', '\n']], text = ending ++ consumeOneLineEnding text := by
  unfold consumeOneLineEnding
  split
  · exact ⟨['\r', '\n'], by simp, rfl⟩
  · exact ⟨['\n'], by simp, rfl⟩
  · exact ⟨[], by simp, rfl⟩

theorem infix_of_spaced (hline : '\n' ∉ pattern) (h : pattern <:+: spaced text) :
    pattern <:+: text := by
  unfold spaced at h
  split at h
  · rename_i hempty
    rwa [hempty]
  · split at h
    · exact infix_of_terminated hline h
    · exact infix_of_terminated hline (infix_of_concat hline h)

theorem trimLeadingLineEndings_suffix (value : List Char) :
    trimLeadingLineEndings value <:+ value := by
  fun_induction trimLeadingLineEndings value with
  | case1 rest ih => exact ih.trans ((List.suffix_cons _ _).trans (List.suffix_cons _ _))
  | case2 rest ih => exact ih.trans (List.suffix_cons _ _)
  | case3 => exact List.suffix_rfl

theorem trimTrailingLineEndings_suffix (value : List Char) :
    trimTrailingLineEndings value <:+ value := by
  fun_induction trimTrailingLineEndings value with
  | case1 rest ih => exact ih.trans ((List.suffix_cons _ _).trans (List.suffix_cons _ _))
  | case2 rest _ ih => exact ih.trans (List.suffix_cons _ _)
  | case3 => exact List.suffix_rfl

theorem infix_of_trimSurroundingLineEndings (value : List Char) :
    trimSurroundingLineEndings value <:+: value := by
  have hfront : trimSurroundingLineEndings value <+: trimLeadingLineEndings value := by
    have hsuffix := trimTrailingLineEndings_suffix (trimLeadingLineEndings value).reverse
    rw [trimSurroundingLineEndings, ← List.reverse_suffix, List.reverse_reverse]
    exact hsuffix
  exact hfront.isInfix.trans (trimLeadingLineEndings_suffix value).isInfix

end Texts

namespace BlockMarkers
variable {markers : BlockMarkers} {text before after rest blockBody : List Char}

theorem infix_of_blockText {pattern : List Char} (hline : '\n' ∉ pattern)
    (h : pattern <:+: blockText blockBody) : pattern <:+: blockBody :=
  (infix_of_newline hline (infix_of_terminated hline h)).trans
    (infix_of_trimSurroundingLineEndings blockBody)

theorem renderManagedBlock_eq (markers : BlockMarkers) (blockBody : List Char) :
    renderManagedBlock markers blockBody =
      markers.beginMarker ++ (blockText blockBody ++ markers.endMarker ++ ['\n']) := by
  have hterminated (first : List Char) (rest : List Char) :
      terminated (first ++ '\n' :: rest) = first ++ terminated ('\n' :: rest) := by
    have hsuffix : ['\n'] <:+ first ++ '\n' :: rest ↔ ['\n'] <:+ '\n' :: rest := by
      constructor
      · intro h
        exact List.suffix_of_suffix_length_le h (List.suffix_append _ _) (by simp)
      · intro h
        exact h.trans (List.suffix_append _ _)
    unfold terminated
    by_cases hends : ['\n'] <:+ '\n' :: rest
    · rw [if_pos hends, if_pos (hsuffix.mpr hends)]
    · rw [if_neg hends, if_neg (mt hsuffix.mp hends), List.append_assoc]
  rw [renderManagedBlock, hterminated, blockText]
  simp only [List.append_assoc]

theorem breakOn_blockText (hlines : markers.Lines) (hbody : ¬ markers.endMarker <:+: blockBody)
    (rest : List Char) : breakOn markers.endMarker
      (blockText blockBody ++ markers.endMarker ++ rest) = some (blockText blockBody, rest) :=
  breakOn_append_of_stop hlines.endMarker.1
    (fun h => hbody (infix_of_blockText hlines.endMarker.1 h))
    (.inr (terminated_ends _)) rest

theorem breakOn_spaced (hlines : markers.Lines) (h : breakOn markers.beginMarker text = none)
    (rest : List Char) : breakOn markers.beginMarker (spaced text ++ markers.beginMarker ++ rest) =
      some (spaced text, rest) :=
  breakOn_append_of_stop hlines.beginMarker.1
    (fun hinfix => breakOn_eq_none_iff.mp h (infix_of_spaced hlines.beginMarker.1 hinfix))
    (spaced_ends text) rest

theorem Outside.breakOn (hlines : markers.Lines) (h : markers.Outside text before after)
    (rest : List Char) :
    Search.breakOn markers.beginMarker (before ++ markers.beginMarker ++ rest) =
      some (before, rest) := by
  cases h with
  | unmarked hnone => exact breakOn_spaced hlines hnone rest
  | marked hbegin _ => exact breakOn_replace hbegin rest

theorem append_renderManagedBlock (markers : BlockMarkers) (before after blockBody : List Char) :
    before ++ renderManagedBlock markers blockBody ++ after =
      before ++ markers.beginMarker ++
        (blockText blockBody ++ markers.endMarker ++ '\n' :: after) := by
  rw [renderManagedBlock_eq]
  simp only [List.append_assoc, List.singleton_append]

theorem updatedManagedBlock_again (hlines : markers.Lines)
    (hbody : ¬ markers.endMarker <:+: blockBody)
    (hbefore : ∀ rest, breakOn markers.beginMarker (before ++ markers.beginMarker ++ rest) =
      some (before, rest)) (path : String) :
    updatedManagedBlock markers path (before ++ renderManagedBlock markers blockBody ++ after)
        (renderManagedBlock markers blockBody) =
      .ok (before ++ renderManagedBlock markers blockBody ++ after) := by
  rw [updatedManagedBlock, append_renderManagedBlock, hbefore]
  dsimp only
  rw [breakOn_blockText hlines hbody]
  exact congrArg Except.ok (append_renderManagedBlock markers before after blockBody)

theorem updatedManagedBlock_eq_ok {path : String} {block updated : List Char}
    (h : updatedManagedBlock markers path text block = .ok updated) :
    ∃ before after, markers.Outside text before after ∧ updated = before ++ block ++ after := by
  unfold updatedManagedBlock at h
  split at h
  · rename_i hnone
    cases h
    exact ⟨_, [], .unmarked hnone, (List.append_nil _).symm⟩
  · rename_i hbegin
    split at h
    · cases h
    · rename_i hend
      cases h
      exact ⟨_, _, .marked hbegin hend, rfl⟩

theorem unended_of_updatedManagedBlock {path : String} {block : List Char} {error : AppError}
    (h : updatedManagedBlock markers path text block = .error error) : markers.Unended text := by
  unfold updatedManagedBlock at h
  split at h
  · cases h
  · rename_i hbegin
    split at h
    · rename_i hend
      exact ⟨_, _, hbegin, hend⟩
    · cases h

/-- A text is written when its update differs, and left when it does not. -/
theorem ensureManagedBlockFile_eq_ok {path : String} {defaultPrefix : List Char}
    {change : ManagedBlockChange} {file' : Option (List Char)}
    (h : ensureManagedBlockFile markers path defaultPrefix blockBody (some text) =
      (.ok change, file')) :
    ∃ before after, markers.Outside text before after ∧
      file' = some (before ++ renderManagedBlock markers blockBody ++ after) := by
  unfold ensureManagedBlockFile at h
  dsimp only at h
  cases hupdated : updatedManagedBlock markers path text (renderManagedBlock markers blockBody) with
  | error error =>
    rw [hupdated] at h
    cases h
  | ok updated =>
    obtain ⟨before, after, houtside, rfl⟩ := updatedManagedBlock_eq_ok hupdated
    rw [hupdated] at h
    dsimp only at h
    split at h
    · rename_i hsame
      cases h
      exact ⟨before, after, houtside, by rw [hsame]⟩
    · cases h
      exact ⟨before, after, houtside, rfl⟩

theorem ensureManagedBlockFile_again (hlines : markers.Lines)
    (hbody : ¬ markers.endMarker <:+: blockBody)
    (hbefore : ∀ rest, breakOn markers.beginMarker (before ++ markers.beginMarker ++ rest) =
      some (before, rest)) (path : String) (defaultPrefix : List Char) :
    ensureManagedBlockFile markers path defaultPrefix blockBody
        (some (before ++ renderManagedBlock markers blockBody ++ after)) =
      (.ok ⟨false, false⟩, some (before ++ renderManagedBlock markers blockBody ++ after)) := by
  unfold ensureManagedBlockFile
  dsimp only
  rw [updatedManagedBlock_again hlines hbody hbefore]
  exact if_pos rfl

theorem breakOn_consumeOneLineEnding (hlines : markers.Lines) (text : List Char) :
    (breakOn markers.beginMarker text).map (·.2) =
      (breakOn markers.beginMarker (consumeOneLineEnding text)).map (·.2) := by
  obtain ⟨hnewline, hreturn, hne⟩ := hlines.beginMarker
  have hskip {c : Char} (hc : c ∉ markers.beginMarker) (text : List Char) :
      (breakOn markers.beginMarker (c :: text)).map (·.2) =
        (breakOn markers.beginMarker text).map (·.2) := by
    have hnot : ¬ markers.beginMarker <+: c :: text := by
      intro hstarts
      rcases List.prefix_cons_iff.mp hstarts with hempty | ⟨rest, hrest, _⟩
      · exact hne hempty
      · exact hc (hrest ▸ List.mem_cons_self)
    rw [breakOn.eq_2, if_neg hnot, Option.map_map]
    rfl
  unfold consumeOneLineEnding
  split
  · rw [hskip hreturn, hskip hnewline]
  · rw [hskip hnewline]
  · rfl

theorem Managed.congr {other : List Char} {contents : List (List Char)}
    (hafter : (breakOn markers.beginMarker text).map (·.2) =
      (breakOn markers.beginMarker other).map (·.2))
    (h : markers.Managed text contents) : markers.Managed other contents := by
  cases h with
  | unmarked hnone =>
    rw [hnone] at hafter
    exact .unmarked (Option.map_eq_none_iff.mp hafter.symm)
  | unended hbegin hend =>
    rw [hbegin] at hafter
    obtain ⟨⟨front, rest⟩, hother, rfl⟩ := Option.map_eq_some_iff.mp hafter.symm
    exact .unended hother hend
  | block hbegin hend hmore =>
    rw [hbegin] at hafter
    obtain ⟨⟨front, rest⟩, hother, rfl⟩ := Option.map_eq_some_iff.mp hafter.symm
    exact .block hother hend hmore

theorem Outside.managed (hlines : markers.Lines) {contents : List (List Char)}
    (houtside : markers.Outside text before after) (h : markers.Managed text contents) :
    markers.Managed after contents.tail := by
  cases houtside with
  | unmarked hnone =>
    cases h with
    | unmarked _ =>
      have hempty : Search.breakOn markers.beginMarker [] = none :=
        if_neg hlines.beginMarker.2.2
      exact .unmarked hempty
    | unended hbegin _ => cases hnone.symm.trans hbegin
    | block hbegin _ _ => cases hnone.symm.trans hbegin
  | marked hbegin hend =>
    cases h with
    | unmarked hnone => cases hnone.symm.trans hbegin
    | unended hbegin' hend' =>
      cases hbegin.symm.trans hbegin'
      cases hend.symm.trans hend'
    | block hbegin' hend' hmore =>
      cases hbegin.symm.trans hbegin'
      cases hend.symm.trans hend'
      exact hmore.congr (breakOn_consumeOneLineEnding hlines _)

theorem Outside.bytes (h : markers.Outside text before after) :
    (after = [] ∧ ∃ gap ∈ [[], ['\n'], ['\n', '\n']], before = text ++ gap) ∨
      ∃ content, ∃ ending ∈ [[], ['\n'], ['\r', '\n']], text =
        before ++ markers.beginMarker ++ content ++ markers.endMarker ++ ending ++ after := by
  cases h with
  | unmarked _ => exact .inl ⟨rfl, spaced_eq text⟩
  | marked hbegin hend =>
    rename_i rest content tail
    obtain ⟨ending, hending, heq⟩ := consumeOneLineEnding_eq tail
    refine .inr ⟨content, ending, hending, ?_⟩
    rw [List.append_assoc _ ending, ← heq, breakOn_eq_some hbegin, breakOn_eq_some hend]
    simp only [List.append_assoc]

/-- What `ensure_managed_block_file` does to a text: an unended block is refused and nothing is
written; else what is outside the first block stays, and the block is the one given, with every
other one left, so that it is the only one where there was at most one; and a second call finds
nothing to do. -/
structure Ensures (markers : BlockMarkers) (path : String) (defaultPrefix blockBody text : List Char) :
    Prop where
  refused : markers.Unended text →
    ensureManagedBlockFile markers path defaultPrefix blockBody (some text) =
      (.error (managedBlockInvalid path), some text)
  succeeds : ¬ markers.Unended text → ∃ change file',
    ensureManagedBlockFile markers path defaultPrefix blockBody (some text) = (.ok change, file')
  preserved : ∀ change file',
    ensureManagedBlockFile markers path defaultPrefix blockBody (some text) = (.ok change, file') →
    ∃ before after, file' = some (before ++ renderManagedBlock markers blockBody ++ after) ∧
      ((after = [] ∧ ∃ gap ∈ [[], ['\n'], ['\n', '\n']], before = text ++ gap) ∨
        ∃ content, ∃ ending ∈ [[], ['\n'], ['\r', '\n']], text =
          before ++ markers.beginMarker ++ content ++ markers.endMarker ++ ending ++ after)
  managed : ∀ change text' contents, ¬ markers.endMarker <:+: blockBody →
    ensureManagedBlockFile markers path defaultPrefix blockBody (some text) =
      (.ok change, some text') → markers.Managed text contents →
    markers.Managed text' (blockText blockBody :: contents.tail)
  idempotent : ∀ change file', ¬ markers.endMarker <:+: blockBody →
    ensureManagedBlockFile markers path defaultPrefix blockBody (some text) = (.ok change, file') →
    ensureManagedBlockFile markers path defaultPrefix blockBody file' =
      (.ok ⟨false, false⟩, file')

theorem ensures (hlines : markers.Lines) (path : String)
    (defaultPrefix blockBody text : List Char) :
    markers.Ensures path defaultPrefix blockBody text where
  refused := by
    intro ⟨before, rest, hbegin, hend⟩
    rw [ensureManagedBlockFile, updatedManagedBlock, hbegin]
    dsimp only
    rw [hend]
  succeeds hended := by
    cases hupdated : updatedManagedBlock markers path text (renderManagedBlock markers blockBody) with
    | error error => exact (hended (unended_of_updatedManagedBlock hupdated)).elim
    | ok updated =>
      unfold ensureManagedBlockFile
      dsimp only
      rw [hupdated]
      dsimp only
      split
      · exact ⟨_, _, rfl⟩
      · exact ⟨_, _, rfl⟩
  preserved change file' h := by
    obtain ⟨before, after, houtside, heq⟩ := ensureManagedBlockFile_eq_ok h
    exact ⟨before, after, heq, houtside.bytes⟩
  managed change text' contents hbody h hmanaged := by
    obtain ⟨before, after, houtside, heq⟩ := ensureManagedBlockFile_eq_ok h
    rw [Option.some.inj heq, append_renderManagedBlock]
    refine .block (houtside.breakOn hlines _) (breakOn_blockText hlines hbody _) ?_
    exact (houtside.managed hlines hmanaged).congr
      (breakOn_consumeOneLineEnding hlines ('\n' :: after)).symm
  idempotent change file' hbody h := by
    obtain ⟨before, after, houtside, rfl⟩ := ensureManagedBlockFile_eq_ok h
    exact ensureManagedBlockFile_again hlines hbody (houtside.breakOn hlines) path defaultPrefix

theorem ensures_gitignore : afmailGitignoreMarkers.Ensures ".gitignore" [] ".cache/".toList
    "*.tmp\n# BEGIN afmail managed\nold\n# END afmail managed\n".toList :=
  ensures ⟨by decide, by decide⟩ ".gitignore" [] _ _

/-- What follows the first block. -/
def afterFirst (markers : BlockMarkers) (text : List Char) : Option (List Char) :=
  (breakOn markers.beginMarker text).bind fun found =>
    (breakOn markers.endMarker found.2).map (·.2)

theorem Managed.afterFirst {content : List Char} (h : markers.Managed text [content]) :
    (markers.afterFirst text).bind markers.afterFirst = none := by
  cases h with
  | block hbegin hend hmore =>
    rw [BlockMarkers.afterFirst, hbegin, Option.bind_some, hend, Option.map_some, Option.bind_some]
    cases hmore with
    | unmarked hnone => rw [BlockMarkers.afterFirst, hnone, Option.bind_none]
    | unended hbegin' hend' =>
      rw [BlockMarkers.afterFirst, hbegin', Option.bind_some, hend', Option.map_none]

/-- A second block of a text stays beside the first, a body with an end marker grows with every
call, and an end marker on its own is text like any other. -/
theorem not_ensured :
    (∃ change text', ensureManagedBlockFile afmailGitignoreMarkers ".gitignore" [] "new".toList
        (some ("# BEGIN afmail managed\n# END afmail managed\n" ++
          "# BEGIN afmail managed\n# END afmail managed\n").toList) = (.ok change, some text') ∧
      ¬ afmailGitignoreMarkers.Managed text' [blockText "new".toList]) ∧
    (∃ change text', ensureManagedBlockFile afmailGitignoreMarkers ".gitignore" []
        "# END afmail managed".toList (some []) = (.ok change, some text') ∧
      (ensureManagedBlockFile afmailGitignoreMarkers ".gitignore" [] "# END afmail managed".toList
        (some text')).2 ≠ some text') ∧
    (ensureManagedBlockFile afmailGitignoreMarkers ".gitignore" [] "new".toList
        (some "# END afmail managed\n".toList)).1.isOk = true := by
  refine ⟨⟨_, _, rfl, ?_⟩, ⟨_, _, rfl, by decide +kernel⟩, by decide +kernel⟩
  intro hmanaged
  have hsecond := hmanaged.afterFirst
  revert hsecond
  decide +kernel

end BlockMarkers
end AgentFirstMail
