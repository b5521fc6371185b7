import AgentFirstMail.Data.Trims

namespace AgentFirstMail
open Text
variable {body footer : List Char}

def normalizeIdentityFooter (footer : Option (List Char)) : Option (List Char) :=
  (footer.map fun footer => trimEnd (trimMatches (· == '\n') footer)).filter (trim · != [])

def appendIdentityFooter (body footer : List Char) : List Char :=
  if trim body = [] then footer else trimEnd body ++ (['\n', '\n'] ++ footer)

/-- A body ends in a footer that stands alone, or behind an empty line. -/
def EndsInFooter (body footer : List Char) : Prop :=
  trimEnd body = footer ∨ ['\n', '\n'] ++ footer <:+ trimEnd body

instance : Decidable (EndsInFooter body footer) :=
  inferInstanceAs (Decidable (_ ∨ _))

def ensureIdentityFooter (body : List Char) (footer : Option (List Char)) : List Char :=
  match normalizeIdentityFooter footer with
  | none => body
  | some footer =>
    if EndsInFooter body footer then body else appendIdentityFooter body footer

def removeIdentityFooter (body : List Char) (footer : Option (List Char)) : List Char :=
  match normalizeIdentityFooter footer with
  | none => body
  | some footer =>
    let bodyEnd := trimEnd body
    let suffix := ['\n', '\n'] ++ footer
    if bodyEnd = footer then []
    else if suffix <:+ bodyEnd then trimEnd (bodyEnd.take (bodyEnd.length - suffix.length))
    else body

def replaceIdentityFooter (body : List Char) (oldFooter newFooter : Option (List Char)) :
    List Char :=
  ensureIdentityFooter (removeIdentityFooter body oldFooter) newFooter

theorem normalizeIdentityFooter_eq_some {raw : Option (List Char)}
    (h : normalizeIdentityFooter raw = some footer) : trimEnd footer = footer ∧ footer ≠ [] := by
  obtain ⟨hmap, hblank⟩ := Option.filter_eq_some_iff.mp h
  obtain ⟨text, _, rfl⟩ := Option.map_eq_some_iff.mp hmap
  refine ⟨trimEnd_trimEnd _, ?_⟩
  rintro hempty
  rw [hempty] at hblank
  exact absurd hblank (by decide)

theorem endsInFooter_iff : EndsInFooter body footer ↔
    trimEnd body = footer ∨ ∃ before, trimEnd body = before ++ (['\n', '\n'] ++ footer) := by
  rw [EndsInFooter]
  refine or_congr_right ⟨?_, ?_⟩
  · rintro ⟨before, hbefore⟩
    exact ⟨before, hbefore.symm⟩
  · rintro ⟨before, hbefore⟩
    exact ⟨before, hbefore.symm⟩

theorem endsInFooter_trimEnd : EndsInFooter (trimEnd body) footer ↔ EndsInFooter body footer := by
  rw [EndsInFooter, EndsInFooter, trimEnd_trimEnd]

theorem appendIdentityFooter_trimEnd :
    appendIdentityFooter (trimEnd body) footer = appendIdentityFooter body footer := by
  simp only [appendIdentityFooter, trim_eq_nil_iff_trimEnd, trimEnd_trimEnd]

section Normalized
variable (hend : trimEnd footer = footer) (hne : footer ≠ [])
include hend hne

theorem trimEnd_appendIdentityFooter :
    trimEnd (appendIdentityFooter body footer) = appendIdentityFooter body footer := by
  rw [appendIdentityFooter]
  split
  · exact hend
  · have hkeep : trimEnd (['\n', '\n'] ++ footer) = ['\n', '\n'] ++ footer := by
      rw [trimEnd_append (by rwa [hend]), hend]
    rw [trimEnd_append (by rw [hkeep]; exact List.append_ne_nil_of_left_ne_nil (by decide) _), hkeep]

theorem endsInFooter_append : EndsInFooter (appendIdentityFooter body footer) footer := by
  rw [EndsInFooter, trimEnd_appendIdentityFooter hend hne, appendIdentityFooter]
  split
  · exact .inl rfl
  · exact .inr (List.suffix_append _ _)

end Normalized

section Laws
variable {raw oldFooter newFooter : Option (List Char)}

theorem ensureIdentityFooter_none (h : normalizeIdentityFooter raw = none) :
    ensureIdentityFooter body raw = body := by
  rw [ensureIdentityFooter, h]

theorem ensureIdentityFooter_some (h : normalizeIdentityFooter raw = some footer) :
    ensureIdentityFooter body raw =
      if EndsInFooter body footer then body else appendIdentityFooter body footer := by
  rw [ensureIdentityFooter, h]

theorem ensureIdentityFooter_idempotent (body : List Char) (raw : Option (List Char)) :
    ensureIdentityFooter (ensureIdentityFooter body raw) raw = ensureIdentityFooter body raw := by
  cases hfooter : normalizeIdentityFooter raw with
  | none => rw [ensureIdentityFooter_none hfooter]
  | some footer =>
    obtain ⟨hend, hne⟩ := normalizeIdentityFooter_eq_some hfooter
    simp only [ensureIdentityFooter_some hfooter]
    by_cases h : EndsInFooter body footer
    · rw [if_pos h, if_pos h]
    · rw [if_neg h, if_pos (endsInFooter_append hend hne)]

theorem removeIdentityFooter_none (h : normalizeIdentityFooter raw = none) :
    removeIdentityFooter body raw = body := by
  rw [removeIdentityFooter, h]

theorem removeIdentityFooter_alone (h : normalizeIdentityFooter raw = some footer)
    (halone : trimEnd body = footer) : removeIdentityFooter body raw = [] := by
  rw [removeIdentityFooter, h]
  exact if_pos halone

theorem removeIdentityFooter_append {before : List Char}
    (h : normalizeIdentityFooter raw = some footer)
    (heq : trimEnd body = before ++ (['\n', '\n'] ++ footer)) :
    removeIdentityFooter body raw = trimEnd before := by
  have hnot : ¬ trimEnd body = footer := by
    intro halone
    rw [halone] at heq
    have hlength := congrArg List.length heq
    simp only [List.length_append, List.length_cons] at hlength
    omega
  rw [removeIdentityFooter, h]
  dsimp only
  rw [if_neg hnot, if_pos ⟨before, heq.symm⟩, heq, List.length_append, Nat.add_sub_cancel,
    List.take_left]

theorem removeIdentityFooter_absent (h : normalizeIdentityFooter raw = some footer)
    (habsent : ¬ EndsInFooter body footer) : removeIdentityFooter body raw = body := by
  rw [EndsInFooter, not_or] at habsent
  rw [removeIdentityFooter, h]
  dsimp only
  rw [if_neg habsent.1, if_neg habsent.2]

theorem removeIdentityFooter_ensured (h : normalizeIdentityFooter raw = some footer)
    (habsent : ¬ EndsInFooter body footer) :
    removeIdentityFooter (ensureIdentityFooter body raw) raw = trimEnd body := by
  obtain ⟨hend, hne⟩ := normalizeIdentityFooter_eq_some h
  rw [ensureIdentityFooter_some h, if_neg habsent]
  have htrim : trimEnd (appendIdentityFooter body footer) = appendIdentityFooter body footer :=
    trimEnd_appendIdentityFooter hend hne
  by_cases hblank : trim body = []
  · rw [appendIdentityFooter, if_pos hblank] at htrim ⊢
    rw [removeIdentityFooter_alone h htrim, trim_eq_nil_iff_trimEnd.mp hblank]
  · rw [appendIdentityFooter, if_neg hblank] at htrim ⊢
    rw [removeIdentityFooter_append h htrim, trimEnd_trimEnd]

theorem ensureIdentityFooter_trimEnd (body : List Char) (raw : Option (List Char)) :
    ensureIdentityFooter (trimEnd body) raw = ensureIdentityFooter body raw ∨
      ensureIdentityFooter (trimEnd body) raw = trimEnd body ∧
        ensureIdentityFooter body raw = body := by
  cases hfooter : normalizeIdentityFooter raw with
  | none => exact .inr ⟨ensureIdentityFooter_none hfooter, ensureIdentityFooter_none hfooter⟩
  | some footer =>
    simp only [ensureIdentityFooter_some hfooter, endsInFooter_trimEnd,
      appendIdentityFooter_trimEnd]
    by_cases h : EndsInFooter body footer
    · exact .inr ⟨if_pos h, if_pos h⟩
    · exact .inl (by rw [if_neg h, if_neg h])

theorem replaceIdentityFooter_ensured (body : List Char) (oldFooter newFooter : Option (List Char)) :
    replaceIdentityFooter (ensureIdentityFooter body oldFooter) oldFooter newFooter =
        ensureIdentityFooter (removeIdentityFooter body oldFooter) newFooter ∨
      replaceIdentityFooter (ensureIdentityFooter body oldFooter) oldFooter newFooter =
          trimEnd body ∧
        ensureIdentityFooter (removeIdentityFooter body oldFooter) newFooter = body := by
  rw [replaceIdentityFooter]
  cases hold : normalizeIdentityFooter oldFooter with
  | none => exact .inl (by rw [ensureIdentityFooter_none hold])
  | some old =>
    by_cases h : EndsInFooter body old
    · exact .inl (by rw [ensureIdentityFooter_some hold, if_pos h])
    · rw [removeIdentityFooter_ensured hold h, removeIdentityFooter_absent hold h]
      exact ensureIdentityFooter_trimEnd body newFooter

end Laws
end AgentFirstMail
