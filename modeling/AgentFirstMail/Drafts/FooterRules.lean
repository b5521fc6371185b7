import AgentFirstMail.Drafts.Extensions

namespace AgentFirstMail
open Lines Text
variable {body text footer : List Char} {raw oldFooter newFooter : Option (List Char)}

/-- To trim the whitespace behind a text, or behind what stands before a footer in it, makes no line
a marker. -/
structure KeepsMarkers (text : List Char) (raw : Option (List Char)) : Prop where
  whole : markers (trimEnd text) = markers text
  front (footer before : List Char) : normalizeIdentityFooter raw = some footer →
    trimEnd text = before ++ (['\n', '\n'] ++ footer) →
      markers (trimEnd (before ++ ['\n'])) = markers (before ++ ['\n'])

/-- No line of a footer is a marker. -/
def PlainFooter (raw : Option (List Char)) : Prop :=
  ∀ footer, normalizeIdentityFooter raw = some footer → markers footer = []

section Trimming

theorem stripSuffix_subset (c : Char) (text : List Char) : stripSuffix c text ⊆ text := by
  rw [stripSuffix]
  split
  · exact List.dropLast_subset text
  · exact List.Subset.refl text

theorem markerOf_of_blank {segment : List Char} (h : ∀ c ∈ segment, isWhitespace c = true) :
    markerOf segment = none := by
  refine Option.eq_none_iff_forall_ne_some.mpr fun marker hmarker => ?_
  have hmem : '<' ∈ lineText segment := by
    rw [markerOf_eq_some_iff.mp hmarker]
    cases marker <;> decide
  have hblank := h '<' (stripSuffix_subset _ _ (stripSuffix_subset _ _ hmem))
  exact absurd hblank (by decide)

theorem markersOf_of_blank {segments : List (List Char)}
    (h : ∀ c ∈ segments.flatten, isWhitespace c = true) : markersOf segments = [] := by
  refine List.filterMap_eq_nil_iff.mpr fun segment hmem => markerOf_of_blank fun c hc => ?_
  exact h c (List.mem_flatten_of_mem hmem hc)

theorem markers_of_blank (h : ∀ c ∈ text, isWhitespace c = true) : markers text = [] := by
  refine markersOf_of_blank fun c hmem => h c ?_
  rwa [flatten_splitInclusive] at hmem

theorem last_trimEnd (text : List Char) : ∀ c ∈ (trimEnd text).getLast?, isLineEnd c = false := by
  intro c hmem
  have hblank : isWhitespace c = false := last_rdropWhile text c hmem
  by_contra hend
  rw [Bool.not_eq_false, isLineEnd, Bool.or_eq_true, beq_iff_eq, beq_iff_eq] at hend
  obtain rfl | rfl := hend
  · exact absurd hblank (by decide)
  · exact absurd hblank (by decide)

theorem markers_behind (front : List Char) (text : List Char) :
    markers (trimEnd front ++ (['\n', '\n'] ++ text)) = markers (trimEnd front) ++ markers text := by
  have hsplit : trimEnd front ++ (['\n', '\n'] ++ text) =
      (trimEnd front ++ ['\n']) ++ (['\n'] ++ text) := by simp
  have hnewline : Closed '\n' ['\n'] := .append_newline []
  have hempty : markers ['\n'] = [] := rfl
  rw [hsplit, markers_append (.append_newline _), markers_append hnewline, hempty,
    markers_append_ending (last_trimEnd front) (.inl rfl), List.nil_append]

end Trimming

section Footers

theorem markers_ensure (hfooter : PlainFooter raw) (h : markers (trimEnd text) = markers text) :
    markers (ensureIdentityFooter text raw) = markers text := by
  cases hraw : normalizeIdentityFooter raw with
  | none => rw [ensureIdentityFooter_none hraw]
  | some footer =>
    rw [ensureIdentityFooter_some hraw]
    split
    · rfl
    · rw [appendIdentityFooter]
      split
      · rename_i hblank
        rw [hfooter footer hraw, markers_of_blank (trim_eq_nil_iff.mp hblank)]
      · rw [markers_behind, hfooter footer hraw, List.append_nil, h]

theorem markers_remove (hfooter : PlainFooter raw) (h : KeepsMarkers text raw) :
    markers (removeIdentityFooter text raw) = markers text := by
  cases hraw : normalizeIdentityFooter raw with
  | none => rw [removeIdentityFooter_none hraw]
  | some footer =>
    by_cases hends : EndsInFooter text footer
    · obtain halone | ⟨before, hbefore⟩ := endsInFooter_iff.mp hends
      · rw [removeIdentityFooter_alone hraw halone, ← h.whole, halone, hfooter footer hraw]
        rfl
      · have hsplit : before ++ (['\n', '\n'] ++ footer) =
            (before ++ ['\n']) ++ (['\n'] ++ footer) := by simp
        have hnewline : Closed '\n' ['\n'] := .append_newline []
        have hempty : markers ['\n'] = [] := rfl
        have hblank : trimEnd ['\n'] = [] := by decide
        have hmarkers : markers text = markers (before ++ ['\n']) := by
          rw [← h.whole, hbefore, hsplit, markers_append (.append_newline _),
            markers_append hnewline, hempty, hfooter footer hraw, List.append_nil, List.append_nil]
        rw [removeIdentityFooter_append hraw hbefore, hmarkers, ← h.front footer before hraw hbefore,
          trimEnd_append_of_blank hblank]
    · rw [removeIdentityFooter_absent hraw hends]

theorem markers_trimEnd_remove (h : KeepsMarkers text raw) :
    markers (trimEnd (removeIdentityFooter text raw)) = markers (removeIdentityFooter text raw) := by
  cases hraw : normalizeIdentityFooter raw with
  | none =>
    rw [removeIdentityFooter_none hraw]
    exact h.whole
  | some footer =>
    by_cases hends : EndsInFooter text footer
    · obtain halone | ⟨before, hbefore⟩ := endsInFooter_iff.mp hends
      · rw [removeIdentityFooter_alone hraw halone]
        rfl
      · rw [removeIdentityFooter_append hraw hbefore, trimEnd_trimEnd]
    · rw [removeIdentityFooter_absent hraw hends]
      exact h.whole

end Footers

/-- What footers make of an accepted body. -/
structure FooterRules (body : List Char) (content : DraftContent)
    (oldFooter newFooter : Option (List Char)) : Prop where
  once : ensureIdentityFooter (ensureIdentityFooter body newFooter) newFooter =
    ensureIdentityFooter body newFooter
  replaced : replaceIdentityFooter (ensureIdentityFooter body oldFooter) oldFooter newFooter =
        ensureIdentityFooter (removeIdentityFooter body oldFooter) newFooter ∨
      replaceIdentityFooter (ensureIdentityFooter body oldFooter) oldFooter newFooter =
          trimEnd body ∧
        ensureIdentityFooter (removeIdentityFooter body oldFooter) newFooter = body
  parses : PlainFooter oldFooter → PlainFooter newFooter → KeepsMarkers body oldFooter →
    ∀ result ∈ [ensureIdentityFooter body newFooter,
        replaceIdentityFooter (ensureIdentityFooter body oldFooter) oldFooter newFooter,
        ensureIdentityFooter (removeIdentityFooter body oldFooter) newFooter],
      ∃ other, parseDraftContent result = .ok other ∧ other.compose = content.compose

theorem Sections.same_compose {content : DraftContent} (sections : Sections body)
    (hparse : parseDraftContent body = .ok content)
    (h : Extends (sections.front ++ sections.authored ++ Marker.composeEnd.chars) text)
    (hmarkers : markers text = markers body) :
    ∃ other, parseDraftContent text = .ok other ∧ other.compose = content.compose := by
  obtain ⟨after, hauthored⟩ := sections.extended h (hmarkers ▸ parses_iff.mp ⟨content, hparse⟩)
  obtain ⟨quote, hafter⟩ := after.parse
  exact ⟨_, hafter, by rw [after.compose_eq hafter, sections.compose_eq hparse, hauthored]⟩

theorem footerRules {content : DraftContent} (h : parseDraftContent body = .ok content)
    (oldFooter newFooter : Option (List Char)) :
    FooterRules body content oldFooter newFooter := by
  obtain ⟨sections⟩ := Sections.of_parse h
  have hreplaced := replaceIdentityFooter_ensured body oldFooter newFooter
  refine ⟨ensureIdentityFooter_idempotent body newFooter, hreplaced, ?_⟩
  intro hold hnew hkeeps
  have hextends := sections.extends_
  have hremoved : Extends (sections.front ++ sections.authored ++ Marker.composeEnd.chars)
      (removeIdentityFooter body oldFooter) := by
    refine hextends.remove sections.closed_inner fun footer hfooter => ?_
    rw [hold footer hfooter]
    exact List.not_mem_nil
  have hensured := sections.same_compose h (hextends.ensure newFooter)
    (markers_ensure hnew hkeeps.whole)
  have hexchanged := sections.same_compose h (hremoved.ensure newFooter)
    ((markers_ensure hnew (markers_trimEnd_remove hkeeps)).trans
      (markers_remove hold hkeeps))
  rw [List.forall_mem_cons, List.forall_mem_cons, List.forall_mem_singleton]
  refine ⟨hensured, ?_, hexchanged⟩
  obtain heq | ⟨heq, _⟩ := hreplaced
  · rw [heq]
    exact hexchanged
  · rw [heq]
    exact sections.same_compose h hextends.trimEnd hkeeps.whole

section Example

/-- A draft without a footer. -/
def greeting : List Char :=
  "<!-- afmail:compose:start -->\nhi\n<!-- afmail:compose:end -->\n".toList

def greetingContent : DraftContent where
  body := greeting
  composeStart := ⟨0, 30⟩
  composeEnd := ⟨33, 61⟩
  quote := none

theorem parse_greeting : parseDraftContent greeting = .ok greetingContent := by decide +kernel

theorem footerRules_greeting :
    FooterRules greeting greetingContent (some "-- \nAnn".toList) (some "-- \nBob".toList) :=
  footerRules parse_greeting _ _

/-- A footer that is taken away takes the newline before it along, and a footer that holds a
marker line makes the draft invalid. -/
theorem footers_leave_greeting :
    replaceIdentityFooter (ensureIdentityFooter greeting (some "Ann".toList))
        (some "Ann".toList) none ≠
      ensureIdentityFooter (removeIdentityFooter greeting (some "Ann".toList)) none ∧
    parseDraftContent (ensureIdentityFooter greeting (some Marker.composeStart.chars)) =
      .error (.duplicateMarker .composeStart) := by
  decide +kernel

end Example
end AgentFirstMail
