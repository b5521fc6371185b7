import Mathlib.Data.List.Flatten
import AgentFirstMail.Store.ContactRules

namespace AgentFirstMail
open Effect Command

section Names
variable {uid : String}

theorem firstSegment_append {suffix : List Char} (h : '-' ∉ uid.toList) :
    firstSegment (String.ofList (uid.toList ++ '-' :: suffix)) = uid := by
  have htake : (uid.toList ++ '-' :: suffix).takeWhile (· != '-') = uid.toList := by
    rw [List.takeWhile_append_of_pos]
    · rw [List.takeWhile_cons_of_neg (by decide), List.append_nil]
    · intro c hmem
      exact bne_iff_ne.mpr fun heq => h (heq ▸ hmem)
  rw [firstSegment, String.toList_ofList, htake, String.ofList_toList]

theorem contactUidFromFileName_contactFileName (humanSlug : String → String) (name : String)
    (h : validUid 'p' uid = true) :
    contactUidFromFileName (contactFileName humanSlug uid name) = some uid := by
  have hname : contactFileName humanSlug uid name =
      String.ofList (uid.toList ++ '-' :: (humanSlug name).toList) := by
    apply String.toList_injective
    simp only [contactFileName, String.toList_append, String.toList_ofList, List.append_assoc]
    rfl
  rw [contactUidFromFileName, hname, firstSegment_append (not_mem_of_validUid (by decide) rfl h)]
  exact if_pos h

theorem validUid_of_contactUidFromFileName {stem : String}
    (h : contactUidFromFileName stem = some uid) : validUid 'p' uid = true := by
  simp only [contactUidFromFileName] at h
  split at h
  · rename_i hvalid
    exact Option.some.inj h ▸ hvalid
  · cases h

end Names

theorem ContactFile.liesAt_iff {file : ContactFile} {group stem : String} :
    file.liesAt group stem = true ↔ file.group = group ∧ file.stem = stem := by
  rw [ContactFile.liesAt, Bool.and_eq_true, beq_iff_eq, beq_iff_eq]

theorem Workspace.mem_of_mem_writeContact {w : Workspace} {file other : ContactFile}
    (h : other ∈ (w.writeContact file).contacts) : other = file ∨ other ∈ w.contacts := by
  simp only [Workspace.writeContact] at h
  split at h
  · obtain ⟨before, hmem, rfl⟩ := List.mem_map.mp h
    by_cases hlies : before.liesAt file.group file.stem
    · exact .inl (if_pos hlies)
    · rw [if_neg hlies]
      exact .inr hmem
  · exact (List.mem_append.mp h).symm.imp_left List.mem_singleton.mp

namespace ContactsValid
variable {w : Workspace} {files before after : List ContactFile} {file file' : ContactFile}
  {group stem : String} {frontmatter : ContactFrontmatter}

theorem split (h : ContactsValid files) (hmem : file ∈ files) : ∃ before after,
    files = before ++ file :: after ∧ ∀ other ∈ before ++ after,
      contactUidFromFileName other.stem ≠ contactUidFromFileName file.stem := by
  obtain ⟨before, after, rfl⟩ := List.append_of_mem hmem
  exact ⟨before, after, rfl, (cons_iff.mp (h.perm List.perm_middle)).2.1⟩

theorem replace (h : ContactsValid (before ++ file :: after)) (hholds : file'.Holds frontmatter)
    (huid : contactUidFromFileName file'.stem = contactUidFromFileName file.stem)
    (hnodup : file'.emails.Nodup)
    (hfree : ∀ email ∈ file'.emails, email ∈ file.emails ∨
      ∀ other ∈ before ++ after, email ∉ other.emails) :
    ContactsValid (before ++ file' :: after) := by
  obtain ⟨_, hothers, _, hdisjoint, hrest⟩ := cons_iff.mp (h.perm List.perm_middle)
  refine (cons_iff.mpr ⟨⟨frontmatter, hholds⟩, ?_, hnodup, ?_, hrest⟩).perm List.perm_middle.symm
  · rw [huid]
    exact hothers
  · intro email hmem
    rcases hfree email hmem with hheld | hfree
    · exact hdisjoint email hheld
    · exact hfree

theorem not_liesAt (hothers : ∀ other ∈ before ++ after,
      contactUidFromFileName other.stem ≠ contactUidFromFileName file.stem)
    (huid : contactUidFromFileName stem = contactUidFromFileName file.stem) :
    ∀ other ∈ before ++ after, other.liesAt group stem = false := by
  intro other hmem
  rw [Bool.eq_false_iff]
  intro hlies
  apply hothers other hmem
  rw [(ContactFile.liesAt_iff.mp hlies).2, huid]

theorem map_middle {change : ContactFile → ContactFile}
    (hothers : ∀ other ∈ before ++ after, change other = other) :
    (before ++ file :: after).map change = before ++ change file :: after := by
  have hmap : ∀ files : List ContactFile, (∀ other ∈ files, change other = other) →
      files.map change = files := by
    intro files hsame
    exact (List.map_congr_left hsame).trans (List.map_id files)
  rw [List.map_append, List.map_cons,
    hmap before fun other hmem => hothers other (List.mem_append_left _ hmem),
    hmap after fun other hmem => hothers other (List.mem_append_right _ hmem)]

theorem writeContact_contacts (hcontacts : w.contacts = before ++ file :: after)
    (hothers : ∀ other ∈ before ++ after,
      contactUidFromFileName other.stem ≠ contactUidFromFileName file.stem)
    (hgroup : file'.group = file.group) (hstem : file'.stem = file.stem) :
    (w.writeContact file').contacts = before ++ file' :: after := by
  have hlies : file.liesAt file'.group file'.stem = true := by
    rw [hgroup, hstem]
    exact ContactFile.liesAt_iff.mpr ⟨rfl, rfl⟩
  have hany : w.contacts.any (·.liesAt file'.group file'.stem) = true := by
    rw [hcontacts]
    exact List.any_eq_true.mpr ⟨file, List.mem_append_right _ List.mem_cons_self, hlies⟩
  have hapart : ∀ other ∈ before ++ after, other.liesAt file'.group file'.stem = false :=
    not_liesAt hothers (congrArg contactUidFromFileName hstem)
  simp only [Workspace.writeContact, if_pos hany]
  rw [hcontacts, map_middle]
  · rw [if_pos hlies]
  · intro other hmem
    rw [if_neg]
    rw [hapart other hmem]
    exact Bool.false_ne_true

theorem writeContact (h : ContactsValid w.contacts) (hmem : file ∈ w.contacts)
    (hgroup : file'.group = file.group) (hstem : file'.stem = file.stem)
    (hholds : file'.Holds frontmatter) (hnodup : file'.emails.Nodup)
    (hfree : ∀ email ∈ file'.emails, email ∈ file.emails ∨
      ∀ other ∈ w.contacts, email ∉ other.emails) :
    ContactsValid (w.writeContact file').contacts := by
  obtain ⟨before, after, hcontacts, hothers⟩ := h.split hmem
  rw [writeContact_contacts hcontacts hothers hgroup hstem]
  rw [hcontacts] at h hfree
  apply h.replace hholds (congrArg contactUidFromFileName hstem) hnodup
  intro email hemail
  refine (hfree email hemail).imp_right fun hfree other hother => hfree other ?_
  rcases List.mem_append.mp hother with hother | hother
  · exact List.mem_append_left _ hother
  · exact List.mem_append_right _ (List.mem_cons_of_mem _ hother)

theorem mem_writeContact (w : Workspace) (file : ContactFile) :
    file ∈ (w.writeContact file).contacts := by
  simp only [Workspace.writeContact]
  split
  · rename_i hany
    obtain ⟨other, hmem, hlies⟩ := List.any_eq_true.mp hany
    exact List.mem_map.mpr ⟨other, hmem, if_pos hlies⟩
  · exact List.mem_append_right _ List.mem_cons_self

theorem writeContact_new (h : ContactsValid w.contacts) (hholds : file.Holds frontmatter)
    (hnew : ∀ other ∈ w.contacts,
      contactUidFromFileName other.stem ≠ contactUidFromFileName file.stem)
    (hnodup : file.emails.Nodup)
    (hfree : ∀ email ∈ file.emails, ∀ other ∈ w.contacts, email ∉ other.emails) :
    ContactsValid (w.writeContact file).contacts := by
  have hany : ¬ w.contacts.any (·.liesAt file.group file.stem) = true := by
    intro hany
    obtain ⟨other, hmem, hlies⟩ := List.any_eq_true.mp hany
    exact hnew other hmem (congrArg contactUidFromFileName (ContactFile.liesAt_iff.mp hlies).2)
  simp only [Workspace.writeContact, if_neg hany]
  apply ContactsValid.perm _ (List.perm_append_singleton file w.contacts).symm
  exact cons_iff.mpr ⟨⟨frontmatter, hholds⟩, hnew, hnodup, hfree, h⟩

theorem removeContact (h : ContactsValid w.contacts) (group stem : String) :
    ContactsValid (w.removeContact group stem).contacts where
  holds file hmem := h.holds file (List.mem_of_mem_filter hmem)
  uids := h.uids.sublist (List.filter_sublist.map _)
  emails := h.emails.sublist (List.filter_sublist.flatMap _)

/-- A file may be renamed as long as its name shows the same uid. -/
theorem renameContact (h : ContactsValid w.contacts) (hmem : file' ∈ w.contacts)
    (hlies : file'.liesAt file.group file.stem = true)
    (huid : contactUidFromFileName stem = contactUidFromFileName file.stem) :
    ContactsValid (w.renameContact file group stem).contacts := by
  obtain ⟨before, after, hcontacts, hothers⟩ := h.split hmem
  obtain ⟨frontmatter, hholds⟩ := h.holds file' hmem
  have hstem := (ContactFile.liesAt_iff.mp hlies).2
  have hlies' := ContactFile.liesAt_iff.mp hlies
  have hapart : ∀ other ∈ before ++ after, other.liesAt group stem = false :=
    not_liesAt hothers (hlies'.2 ▸ huid)
  have haway : ∀ other ∈ before ++ after, other.liesAt file.group file.stem = false :=
    not_liesAt hothers (congrArg contactUidFromFileName hlies'.2.symm)
  have hkept : w.contacts.filter (fun other =>
      other.liesAt file.group file.stem || !other.liesAt group stem) = w.contacts := by
    rw [List.filter_eq_self, hcontacts]
    intro other hother
    by_cases heq : other = file'
    · rw [heq, hlies, Bool.true_or]
    · have hin : other ∈ before ++ after := by
        simp only [List.mem_append, List.mem_cons, heq, false_or] at hother ⊢
        exact hother
      rw [hapart other hin, Bool.not_false, Bool.or_true]
  simp only [Workspace.renameContact, hkept]
  rw [hcontacts, map_middle, if_pos hlies]
  · rw [hcontacts] at h
    have hrenamed : ContactFile.Holds { file' with group, stem } frontmatter := by
      refine ⟨hholds.content, ?_, hholds.normal⟩
      rw [huid, ← hlies'.2]
      exact hholds.uid
    have hnodup := (cons_iff.mp (h.perm List.perm_middle)).2.2.1
    exact h.replace hrenamed (huid.trans (hlies'.2 ▸ rfl)) hnodup fun _ hemail => .inl hemail
  · intro other hother
    rw [haway other hother]
    exact if_neg Bool.false_ne_true

end ContactsValid
end AgentFirstMail
