import AgentFirstMail.Data.Trims
import AgentFirstMail.Drafts.Content
import AgentFirstMail.Store.Process

namespace AgentFirstMail
open Lines Text

structure MarkdownDoc where
  frontmatter : List Char
  body : List Char

/-- The line above and below front matter. -/
def fence : List Char := "---".toList

def withoutLineEnd (line : List Char) : List Char := line.rdropWhile isLineEnd

/-- Reads front matter up to the line that closes it; the body is all that follows. -/
def readFrontmatter (frontmatterLines : List (List Char)) : List (List Char) → Result MarkdownDoc
  | [] => .error (invalidRequest "markdown frontmatter is not closed")
  | line :: rest =>
    let content := withoutLineEnd line
    if content = fence then
      .ok { frontmatter := List.intercalate ['\n'] frontmatterLines, body := rest.flatten }
    else readFrontmatter (frontmatterLines ++ [content]) rest

def splitFrontmatter (input : List Char) : Result MarkdownDoc :=
  match splitInclusive '\n' input with
  | [] => .error (invalidRequest "markdown file is missing frontmatter")
  | opening :: lines =>
    if withoutLineEnd opening = fence then readFrontmatter [] lines
    else .error (invalidRequest "markdown file is missing frontmatter")

/-- How front matter is written and read: as YAML, and by an editor of documents that leaves what
does not change as it was. The editor has no answer for a source that it cannot read. -/
structure MarkdownFormat (φ : Type) where
  fromStr : List Char → Except String φ
  yamlToString : φ → Except String (List Char)
  editDocument : List Char → φ → Result (Option (List Char))

section Format
variable {φ : Type} (format : MarkdownFormat φ)

def parseFrontmatter (frontmatter : List Char) : Result φ :=
  (format.fromStr (withoutLineEnd frontmatter ++ ['\n'])).mapError fun error =>
    invalidRequest s!"invalid frontmatter: {error}"

def readDoc (input : List Char) : Result (φ × List Char) := do
  let doc ← splitFrontmatter input
  let parsed ← parseFrontmatter format doc.frontmatter
  return (parsed, doc.body)

def internalError (message : String) : AppError := { errorCode := "internal", message }

/-- A document before its body. -/
def documentHead (yaml : List Char) : List Char :=
  fence ++ '\n' :: (withoutLineEnd yaml ++ '\n' :: (fence ++ ['\n']))

/-- A body as it is rendered: without whitespace before it and with a newline at its end. -/
def documentBody (body : List Char) : List Char :=
  trimStart body ++ if ['\n'] <:+ trimStart body then [] else ['\n']

def renderFrontmatter (frontmatter : φ) (body : List Char) : Result (List Char) := do
  let yaml ← (format.yamlToString frontmatter).mapError fun error =>
    internalError s!"serialize frontmatter: {error}"
  return documentHead yaml ++ documentBody body

def editFrontmatter (source : List Char) (frontmatter : φ) (body : List Char) :
    Result (List Char) := do
  match ← format.editDocument source frontmatter with
  | none => renderFrontmatter format frontmatter body
  | some edited =>
    match splitFrontmatter edited with
    | .ok split =>
      if split.body = body then return edited else renderFrontmatter format frontmatter body
    | .error _ => renderFrontmatter format frontmatter body

end Format

section Reading
variable {φ : Type} {format : MarkdownFormat φ} {head body rendered source : List Char}
  {frontmatter : φ} {doc : MarkdownDoc}

theorem readFrontmatter_body {found lines : List (List Char)}
    (h : readFrontmatter found lines = .ok doc) :
    ∃ before line rest, lines = before ++ line :: rest ∧ doc.body = rest.flatten ∧
      withoutLineEnd line = fence ∧ ∀ other ∈ before, withoutLineEnd other ≠ fence := by
  induction lines generalizing found with
  | nil => cases h
  | cons first rest ih =>
    rw [readFrontmatter] at h
    split at h
    · rename_i hfence
      cases h
      exact ⟨[], first, rest, rfl, rfl, hfence, fun _ hmem => nomatch hmem⟩
    · rename_i hother
      obtain ⟨before, line, later, rfl, hbody, hline, hbefore⟩ := ih h
      refine ⟨first :: before, line, later, rfl, hbody, hline, ?_⟩
      intro other hmem
      obtain rfl | hlater := List.mem_cons.mp hmem
      · exact hother
      · exact hbefore other hlater

/-- What is read back of a document that has a closing line before its body starts with some lines
of what stands before the body, and goes on with the body. -/
theorem body_of_splitFrontmatter {opening : List Char} {lines : List (List Char)}
    (hlines : ∀ line ∈ opening :: lines, IsLine '\n' line)
    (hclosing : ∃ line ∈ lines, withoutLineEnd line = fence)
    (h : splitFrontmatter ((opening :: lines).flatten ++ body) = .ok doc) :
    ∃ kept, Closed '\n' kept ∧ doc.body = kept ++ body := by
  have hsplit : splitInclusive '\n' ((opening :: lines).flatten ++ body) =
      opening :: (lines ++ splitInclusive '\n' body) := by
    have hhead := splitInclusive_flatten hlines (List.not_mem_nil (a := '\n'))
    rw [List.append_nil, lastSegment_nil, List.append_nil] at hhead
    rw [splitInclusive_append (closed_flatten hlines), hhead]
    rfl
  rw [splitFrontmatter, hsplit] at h
  dsimp only at h
  split at h
  · obtain ⟨before, line, rest, heq, hbody, hline, hbefore⟩ := readFrontmatter_body h
    obtain ⟨more, rfl, hmore⟩ | ⟨more, rfl, hmore⟩ := List.append_eq_append_iff.mp heq
    · obtain ⟨closing, hmem, hfence⟩ := hclosing
      exact (hbefore closing (List.mem_append_left _ hmem) hfence).elim
    · cases more with
      | nil =>
        obtain ⟨closing, hmem, hfence⟩ := hclosing
        rw [List.append_nil] at hmem
        exact (hbefore closing hmem hfence).elim
      | cons first others =>
        rw [List.cons_append, List.cons.injEq] at hmore
        obtain ⟨rfl, rfl⟩ := hmore
        refine ⟨others.flatten, closed_flatten fun other hmem => hlines other ?_, ?_⟩
        · exact List.mem_cons_of_mem _ (List.mem_append_right _ (List.mem_cons_of_mem _ hmem))
        · rw [hbody, List.flatten_append, flatten_splitInclusive]
  · cases h

theorem body_of_rendered {yaml : List Char}
    (h : splitFrontmatter (documentHead yaml ++ body) = .ok doc) :
    ∃ kept, Closed '\n' kept ∧ doc.body = kept ++ body := by
  have hopening : IsLine '\n' (fence ++ ['\n']) := ⟨fence, by decide, rfl⟩
  have hclosed : Closed '\n' (withoutLineEnd yaml ++ ['\n']) := .append_newline _
  have hhead : documentHead yaml = ((fence ++ ['\n']) ::
      (splitInclusive '\n' (withoutLineEnd yaml ++ ['\n']) ++ [fence ++ ['\n']])).flatten := by
    rw [List.flatten_cons, List.flatten_append, flatten_splitInclusive, List.flatten_singleton,
      documentHead]
    simp only [List.append_assoc]
    rfl
  rw [hhead] at h
  refine body_of_splitFrontmatter ?_ ⟨_, List.mem_append_right _ List.mem_cons_self, by decide⟩ h
  intro line hmem
  obtain rfl | hline := List.mem_cons.mp hmem
  · exact hopening
  · obtain hyaml | hfence := List.mem_append.mp hline
    · exact isLine_of_closed hclosed hyaml
    · rw [List.mem_singleton.mp hfence]
      exact hopening

theorem renderFrontmatter_eq_ok (h : renderFrontmatter format frontmatter body = .ok rendered) :
    ∃ yaml, rendered = documentHead yaml ++ documentBody body := by
  obtain ⟨yaml, _, h⟩ := Result.bind_ok h
  cases h
  exact ⟨yaml, rfl⟩

theorem editFrontmatter_eq_ok (h : editFrontmatter format source frontmatter body = .ok rendered) :
    (∃ split, splitFrontmatter rendered = .ok split ∧ split.body = body) ∨
      ∃ yaml, rendered = documentHead yaml ++ documentBody body := by
  obtain ⟨answer, _, h⟩ := Result.bind_ok h
  cases answer with
  | none => exact .inr (renderFrontmatter_eq_ok h)
  | some edited =>
    dsimp only at h
    split at h
    · rename_i split hsplit
      split at h
      · rename_i hbody
        cases h
        exact .inl ⟨split, hsplit, hbody⟩
      · exact .inr (renderFrontmatter_eq_ok h)
    · exact .inr (renderFrontmatter_eq_ok h)

end Reading
end AgentFirstMail
