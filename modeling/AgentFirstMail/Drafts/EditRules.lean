import AgentFirstMail.Drafts.Commands
import AgentFirstMail.Drafts.FooterRules

namespace AgentFirstMail
open Effect Local Text
variable {host : DraftHost} {body text : List Char} {draft changed : ChangedDraft}
  {change : DraftChange}

section Rejecting

theorem Torn.not_checked (h : Torn text) {content : DraftContent} :
    checkedDraftContent text ≠ .ok content :=
  fun hchecked => h.not_parsed (mapError_eq_ok_iff.mp hchecked)

theorem Torn.not_validated {draftName : String} {source rendered : List Char} {header : DraftHeader}
    (h : Torn body) (hedit : editFrontmatter host.format source header body = .ok rendered)
    {validation : DraftValidation} : validateDraftBytes host draftName rendered ≠ .ok validation := by
  intro hvalid
  obtain ⟨_, _, hvalid⟩ := Result.bind_ok hvalid
  obtain ⟨⟨read, readBody⟩, hread, hvalid⟩ := Result.bind_ok hvalid
  obtain ⟨content, hcontent, _⟩ := Result.bind_ok hvalid
  obtain ⟨doc, hdoc, hread⟩ := Result.bind_ok (mapError_eq_ok_iff.mp hread)
  obtain ⟨_, _, hread⟩ := Result.bind_ok hread
  cases hread
  exact (h.read_back hedit hdoc).not_checked hcontent

theorem torn_of_replace {content : DraftContent} {updated : List Char}
    (hparse : parseDraftContent body = .ok content) (h : markers (trimLineEnds text) ≠ [])
    (hreplace : replaceAuthoredText body text = .ok updated) : Torn updated := by
  obtain ⟨sections⟩ := Sections.of_parse hparse
  rw [sections.replace_eq] at hreplace
  cases hreplace
  exact sections.torn h

theorem newDraftBody_rejects {content : DraftContent} (hparse : parseDraftContent body = .ok content)
    (h : markers (trimLineEnds text) ≠ []) (identity : ResolvedIdentity) {created : List Char} :
    newDraftBody body (some text) identity ≠ .ok created := by
  intro hnew
  obtain ⟨updated, hupdated, hnew⟩ := Result.bind_ok hnew
  obtain ⟨_, hchecked, _⟩ := Result.bind_ok hnew
  exact (torn_of_replace hparse h (mapError_eq_ok_iff.mp hupdated)).not_checked hchecked

end Rejecting

section Changing

@[simp] theorem ChangedDraft.noted_body (changed : Bool) (field : String) :
    (draft.noted changed field).body = draft.body := by
  rw [ChangedDraft.noted]
  split <;> rfl

@[simp] theorem ChangedDraft.noted_header (changed : Bool) (field : String) :
    (draft.noted changed field).header = draft.header := by
  rw [ChangedDraft.noted]
  split <;> rfl

theorem changeSubject_frame : (changeSubject change draft).body = draft.body ∧
    (changeSubject change draft).header.identity = draft.header.identity := by
  rw [changeSubject]
  split
  · exact ⟨rfl, rfl⟩
  · exact ⟨ChangedDraft.noted_body .., by rw [ChangedDraft.noted_header]⟩

theorem changeRecipients_frame (h : changeRecipients host change draft = .ok changed) :
    changed.body = draft.body ∧ changed.header.identity = draft.header.identity := by
  obtain ⟨to_, _, h⟩ := Result.bind_ok h
  obtain ⟨cc, _, h⟩ := Result.bind_ok h
  obtain ⟨bcc, _, h⟩ := Result.bind_ok h
  cases h
  simp

/-- The footer of an identity that a change takes a draft away from has no line that ends the
compose section. -/
def LeavesComposeEnd (host : DraftHost) (change : DraftChange) (identity : Option String) : Prop :=
  change.identity.isSome → ∀ old, resolveDraftIdentity host identity = .ok old →
    ∀ footer, normalizeIdentityFooter old.footerText = some footer →
      .composeEnd ∉ markers footer

theorem changeBody_torn {content : DraftContent}
    (hparse : parseDraftContent draft.body = .ok content) (h : markers (trimLineEnds text) ≠ [])
    (hchange : changeBody host change text draft = .ok changed) :
    Torn changed.body ∧ changed.header = draft.header := by
  obtain ⟨identity, _, hchange⟩ := Result.bind_ok hchange
  obtain ⟨updated, hupdated, hchange⟩ := Result.bind_ok hchange
  cases hchange
  rw [ChangedDraft.noted_body, ChangedDraft.noted_header]
  exact ⟨(torn_of_replace hparse h (mapError_eq_ok_iff.mp hupdated)).ensure _, rfl⟩

theorem changeIdentity_torn {identity : String} (h : Torn draft.body)
    (hfooter : ∀ old, resolveDraftIdentity host draft.header.identity = .ok old →
      ∀ footer, normalizeIdentityFooter old.footerText = some footer →
        .composeEnd ∉ markers footer)
    (hchange : changeIdentity host identity draft = .ok changed) : Torn changed.body := by
  obtain ⟨old, hold, hchange⟩ := Result.bind_ok hchange
  obtain ⟨new, _, hchange⟩ := Result.bind_ok hchange
  cases hchange
  rw [ChangedDraft.noted_body, ChangedDraft.noted_body]
  exact (h.remove (hfooter old hold)).ensure _

theorem changedDraft_torn {content : DraftContent}
    (hparse : parseDraftContent draft.body = .ok content) (h : markers (trimLineEnds text) ≠ [])
    (hfooter : LeavesComposeEnd host change draft.header.identity)
    (hchange : changedDraft host change (some text) draft = .ok changed) : Torn changed.body := by
  obtain ⟨addressed, haddressed, hchange⟩ := Result.bind_ok hchange
  obtain ⟨edited, hedited, hchange⟩ := Result.bind_ok hchange
  obtain ⟨hsubjectBody, hsubjectIdentity⟩ := @changeSubject_frame draft change
  obtain ⟨hbody, hidentity⟩ := changeRecipients_frame haddressed
  rw [← hsubjectBody, ← hbody] at hparse
  obtain ⟨htorn, hheader⟩ := changeBody_torn hparse h hedited
  cases hnew : change.identity with
  | none =>
    rw [hnew] at hchange
    cases hchange
    exact htorn
  | some identity =>
    rw [hnew] at hchange
    refine changeIdentity_torn htorn ?_ hchange
    rw [hheader, hidentity, hsubjectIdentity]
    exact hfooter (by rw [hnew]; rfl)

end Changing

/-- A text that is not written to a draft, whichever command it is given to: each fails before its
first write. -/
structure EditRejected (body text : List Char) : Prop where
  create (host : DraftHost) (draftName : String) (header : DraftHeader)
    (identity : ResolvedIdentity) (drafts : CaseDrafts) :
    (createDraft host draftName header body (some text) identity).FailsUnwritten drafts
  reply (host : DraftHost) (messageId : String) (header : DraftHeader)
    (identity : ResolvedIdentity) (drafts : CaseDrafts) :
    (replyToMessage host messageId header body (some text) identity).FailsUnwritten drafts
  change (host : DraftHost) (draftName : String) (change : DraftChange) (drafts : CaseDrafts)
    (file : List Char) (header : DraftHeader) :
    change.body = .ok (some (String.ofList text)) → drafts.files[draftName]? = some file →
    readDraftDoc host file = .ok (header, body) → LeavesComposeEnd host change header.identity →
    (changeDraft host draftName change).FailsUnwritten drafts

theorem editRejected {content : DraftContent} (hparse : parseDraftContent body = .ok content)
    (h : markers (trimLineEnds text) ≠ []) : EditRejected body text where
  create host draftName header identity drafts := by
    refine FailsUnwritten.ofExcept_bind fun created hcreated => ?_
    exact (newDraftBody_rejects hparse h identity hcreated).elim
  reply host messageId header identity drafts := by
    refine FailsUnwritten.ofExcept_bind fun created hcreated => ?_
    exact (newDraftBody_rejects hparse h identity hcreated).elim
  change host draftName change drafts file header hbody hfile hread hfooter := by
    refine FailsUnwritten.ofExcept_bind fun _ _ => ?_
    refine FailsUnwritten.ofExcept_bind fun bodyOverride hoverride => ?_
    rw [hbody] at hoverride
    cases hoverride
    refine FailsUnwritten.read_bind ?_
    rw [hfile]
    refine FailsUnwritten.ofExcept_bind fun read hread' => ?_
    rw [hread] at hread'
    cases hread'
    refine FailsUnwritten.ofExcept_bind fun changed hchanged => ?_
    have htorn : Torn changed.body := by
      rw [Option.map_some, String.toList_ofList] at hchanged
      exact changedDraft_torn hparse h hfooter hchanged
    refine FailsUnwritten.ofExcept_bind fun rendered hrendered => ?_
    refine FailsUnwritten.ofExcept_bind fun validation hvalidation => ?_
    exact (htorn.not_validated hrendered hvalidation).elim

namespace DraftContent
variable (content : DraftContent)

/-- All up to the compose section, with its marker line. -/
def before : List Char := content.body.take content.composeStart.afterLine

/-- All behind the compose section, from its marker line on. -/
def behind : List Char := content.body.drop content.composeEnd.lineStart

def lineEnding : List Char := markerLineEnding content.body content.composeStart

/-- The body with another text in its compose section. -/
def rewritten (text : List Char) : List Char :=
  content.before ++ (trimLineEnds text ++ content.lineEnding) ++ content.behind

end DraftContent

/-- What becomes of an accepted body when a text replaces its compose section, and what is sent
of it. -/
structure BodyEdit (body text : List Char) (content : DraftContent) : Prop where
  cut : body = content.before ++ content.compose ++ content.behind
  line : IsLineEnding content.lineEnding
  replaced : replaceAuthoredText body text = .ok (content.rewritten text)
  accepted : markers (trimLineEnds text) = [] → ∃ other,
    parseDraftContent (content.rewritten text) = .ok other ∧
      other.compose = trimLineEnds text ++ content.lineEnding ∧
      slice other.body other.authoredTextRange.1 other.authoredTextRange.2 = trimLineEnds text
  rejected : markers (trimLineEnds text) ≠ [] →
    (∀ other, parseDraftContent (content.rewritten text) ≠ .ok other) ∧ EditRejected body text
  outbound : outboundBody body =
    .ok (trimLineEnds (content.compose ++ withoutMarkerLines content.behind))

theorem bodyEdit {content : DraftContent} (h : parseDraftContent body = .ok content)
    (text : List Char) : BodyEdit body text content := by
  obtain ⟨sections⟩ := Sections.of_parse h
  obtain ⟨hbody, hstart, hend⟩ := sections.eq_of_parse h
  have hcompose := sections.compose_eq h
  have hbefore : content.before = sections.front := by
    rw [DraftContent.before, hbody, hstart, sections.take_afterLine]
  have hbehind : content.behind = sections.back := by
    rw [DraftContent.behind, hbody, hend, sections.drop_lineStart]
  have hwritten : trimLineEnds text ++ content.lineEnding = sections.written text := by
    rw [DraftContent.lineEnding, hbody, hstart]
    rfl
  have hrewritten : content.rewritten text =
      sections.front ++ (sections.written text ++ sections.back) := by
    rw [DraftContent.rewritten, hbefore, hbehind, hwritten, List.append_assoc]
  have hline : IsLineEnding content.lineEnding := isLineEnding_markerLineEnding ..
  refine ⟨?_, hline, ?_, ?_, ?_, ?_⟩
  · rw [hbefore, hcompose, hbehind]
    exact sections.body_eq_append
  · rw [hrewritten, sections.replace_eq]
  · intro hplain
    let other := sections.replaced (sections.closed_written text)
      ((sections.markers_written text).trans hplain)
    obtain ⟨quote, hother⟩ := other.parse
    have hauthored : other.authored = sections.written text := Lines.flatten_splitInclusive _ _
    rw [hrewritten, hwritten]
    refine ⟨_, hother, by rw [other.compose_eq hother, hauthored], ?_⟩
    have hnone : ∀ c ∈ ([] : List Char), isLineEnd c = true := fun _ hmem => nomatch hmem
    have haround := trimMatches_around hnone hline.isLineEnd (Trimmed.trimMatches text)
    refine (other.slice_authoredTextRange hother).trans ?_
    rw [hauthored, ← hwritten]
    exact haround
  · intro hmarked
    rw [hrewritten]
    exact ⟨fun other hother => (sections.torn hmarked).not_parsed hother, editRejected h hmarked⟩
  · rw [hcompose, hbehind]
    exact sections.outbound_eq

theorem bodyEdit_greeting : BodyEdit greeting "hello".toList greetingContent :=
  bodyEdit parse_greeting _

/-- A text that starts with an empty line. -/
def spacedText : List Char := "\nhello".toList

/-- The empty line is not written, and the newline at the end of a draft is not sent. -/
theorem bodyEdit_trims :
    parseDraftContent greeting = .ok greetingContent ∧ markers spacedText = [] ∧
    (∃ updated other, replaceAuthoredText greeting spacedText = .ok updated ∧
      parseDraftContent updated = .ok other ∧ other.compose = "hello\n".toList ∧
      other.compose ∉ [spacedText, spacedText ++ ['\n'], spacedText ++ ['\r', '\n']]) ∧
    outboundBody greeting ≠ .ok (greetingContent.compose ++
      withoutMarkerLines greetingContent.behind) := by
  have hsent : outboundBody greeting = .ok "hi".toList := by decide +kernel
  have hmore : greetingContent.compose ++ withoutMarkerLines greetingContent.behind =
      "hi\n".toList := by decide +kernel
  refine ⟨by decide +kernel, by decide +kernel, ⟨?updated, ?other, ?_, ?_, ?_, ?_⟩,
    by simp [hsent, hmore]⟩
  case updated =>
    exact "<!-- afmail:compose:start -->\nhello\n<!-- afmail:compose:end -->\n".toList
  case other =>
    exact ⟨"<!-- afmail:compose:start -->\nhello\n<!-- afmail:compose:end -->\n".toList,
      ⟨0, 30⟩, ⟨36, 64⟩, none⟩
  all_goals decide +kernel

end AgentFirstMail
