import AgentFirstMail.Data.Indexing
import AgentFirstMail.Data.Lists
import AgentFirstMail.Data.Trimming
import AgentFirstMail.Store.Contacts

namespace AgentFirstMail
open Effect Command

section Uids
variable {kind : UidKind} {date uid : String} {existing : List String}

theorem ofDigitChars_paddedNumber (number : Nat) :
    Nat.ofDigitChars 10 (paddedNumber number) 0 = number := by
  rw [paddedNumber, Nat.ofDigitChars_append, Nat.ofDigitChars_replicate_zero, Nat.mul_zero,
    Nat.ofDigitChars_ten_toDigits]

theorem isDigits_paddedNumber (number : Nat) : isDigits (paddedNumber number) = true := by
  rw [isDigits, paddedNumber, List.all_append, Bool.and_eq_true]
  constructor
  · rw [List.all_eq_true]
    intro c hmem
    rw [List.eq_of_mem_replicate hmem]
    rfl
  · rw [List.all_eq_true]
    intro c hmem
    exact Nat.isDigit_of_mem_toDigits (by omega) (by omega) hmem

theorem three_le_length_paddedNumber (number : Nat) : 3 ≤ (paddedNumber number).length := by
  rw [paddedNumber, List.length_append, List.length_replicate]
  omega

theorem uidSequence_of_le (hdate : uidOfDate kind date uid = true)
    (hnumber : uidNumber uid ≤ maxUint64) : uidSequence kind date uid = uidNumber uid := by
  rw [uidSequence, if_pos (by simpa [hdate] using hnumber)]

theorem uidSequence_le (kind : UidKind) (date uid : String) :
    uidSequence kind date uid ≤ maxUint64 := by
  unfold uidSequence
  split
  · rename_i h
    exact of_decide_eq_true (Bool.and_eq_true_iff.mp h).2
  · exact Nat.zero_le _

theorem nextUidForDate_eq_ok (h : nextUidForDate kind date existing = .ok uid) :
    ∃ number, (∀ other ∈ existing, uidSequence kind date other < number) ∧
      number ≤ maxUint64 ∧ date.toList.length = 8 ∧ isDigits date.toList = true ∧
      uid.toList = kind.letter :: date.toList ++ paddedNumber number := by
  obtain ⟨hdate, h⟩ := Result.seq_ok h
  rw [ensure_eq_ok_iff, Bool.and_eq_true, beq_iff_eq, ← String.length_toList] at hdate
  obtain ⟨hbound, h⟩ := Result.seq_ok h
  rw [ensure_eq_ok_iff, decide_eq_true_eq] at hbound
  cases h
  refine ⟨_, ?_, hbound, hdate.1, hdate.2, String.toList_ofList⟩
  intro other hmem
  exact Nat.lt_succ_of_le ((Lists.le_foldl_max _ 0).2 _ (List.mem_map_of_mem hmem))

theorem nextUidForDate_fresh (h : nextUidForDate kind date existing = .ok uid) :
    validUid kind.letter uid = true ∧ uid ∉ existing := by
  obtain ⟨number, hnumber, hbound, hlength, hdigits, huid⟩ := nextUidForDate_eq_ok h
  have hvalid : validUid kind.letter uid = true := by
    have hlong := three_le_length_paddedNumber number
    rw [validUid, huid, List.cons_append]
    simp only [beq_self_eq_true, Bool.true_and, Bool.and_eq_true, decide_eq_true_eq,
      List.length_append, isDigits, List.all_append]
    exact ⟨by omega, hdigits, isDigits_paddedNumber number⟩
  refine ⟨hvalid, fun hmem => ?_⟩
  have hdate : uidOfDate kind date uid = true := by
    rw [uidOfDate, hvalid, huid, List.cons_append, List.drop_one, List.tail_cons,
      List.take_append_of_le_length hlength.ge, List.take_of_length_le hlength.le]
    simp
  have hvalue : uidNumber uid = number := by
    rw [uidNumber, huid, List.cons_append, List.drop_succ_cons, ← hlength, List.drop_left,
      ofDigitChars_paddedNumber]
  have hsequence := uidSequence_of_le hdate (hvalue.le.trans hbound)
  have hless := hnumber uid hmem
  omega

/-- A date has a next uid unless one of its uids has the largest number there is. -/
theorem nextUidForDate_isOk_iff (hdate : date.length = 8 ∧ isDigits date.toList = true) :
    (∃ uid, nextUidForDate kind date existing = .ok uid ∧ validUid kind.letter uid = true ∧
        uid ∉ existing) ↔
      ∀ uid ∈ existing, uidOfDate kind date uid = true → uidNumber uid ≠ maxUint64 := by
  constructor
  · intro ⟨uid, hnext, _⟩ other hmem hother heq
    obtain ⟨number, hnumber, hbound, _⟩ := nextUidForDate_eq_ok hnext
    have hless := hnumber other hmem
    rw [uidSequence_of_le hother heq.le] at hless
    omega
  · intro hbelow
    have hfold : (existing.map (uidSequence kind date)).foldl max 0 < maxUint64 := by
      apply Lists.foldl_max_lt (Nat.zero_lt_succ _)
      intro number hmem
      obtain ⟨other, hother, rfl⟩ := List.mem_map.mp hmem
      apply Nat.lt_of_le_of_ne (uidSequence_le kind date other)
      intro heq
      unfold uidSequence at heq
      split at heq
      · rename_i hof
        exact hbelow other hother (Bool.and_eq_true_iff.mp hof).1 heq
      · cases heq
    have hnext : ∃ uid, nextUidForDate kind date existing = .ok uid := by
      have hvalid : (date.length == 8 && isDigits date.toList) = true := by simp [hdate]
      have hdate : ensure (date.length == 8 && isDigits date.toList)
          (invalidRequest s!"invalid UID date: {date}") = .ok () := ensure_eq_ok_iff.mpr hvalid
      have hroom := (ensure_eq_ok_iff.mpr (decide_eq_true hfold) :
        ensure _ arithmeticOverflow = .ok ())
      rw [nextUidForDate, hdate]
      dsimp only [bind, Except.bind]
      rw [hroom]
      exact ⟨_, rfl⟩
    obtain ⟨uid, huid⟩ := hnext
    exact ⟨uid, huid, nextUidForDate_fresh huid⟩

theorem nextUidForDate_isOk_ninth :
    ∃ uid, nextUidForDate .case "20240101" ["c20240101009"] = .ok uid ∧
      validUid UidKind.case.letter uid = true ∧ uid ∉ ["c20240101009"] :=
  (nextUidForDate_isOk_iff (by decide)).mpr (by decide +kernel)

/-- A case whose uid is valid and has the largest number leaves no uid for its date. -/
theorem nextUidForDate_overflows :
    ¬ ∀ (kind : UidKind) (date : String) (existing : List String),
      date.length = 8 → isDigits date.toList = true →
      (∀ uid ∈ existing, validUid kind.letter uid = true) →
      ∃ uid, nextUidForDate kind date existing = .ok uid ∧ validUid kind.letter uid = true ∧
        uid ∉ existing := by
  intro hfresh
  obtain ⟨uid, hnext, _⟩ := hfresh .case "20240101" ["c2024010118446744073709551615"] (by decide)
    (by decide) (by decide +kernel)
  have hpanics : nextUidForDate .case "20240101" ["c2024010118446744073709551615"] =
      .error arithmeticOverflow := by decide +kernel
  rw [hpanics] at hnext
  cases hnext

end Uids
section Normalization

/-- An address as it is compared. -/
structure NormalEmail (email : String) : Prop where
  normalized : normalizedEmail email = email
  nonempty : email ≠ ""

theorem normalizedEmail_toList (email : String) :
    (normalizedEmail email).toList = (Text.trim email.toList).map Char.toLower := by
  rw [normalizedEmail, toAsciiLowercase, trimmed, String.toList_ofList, Text.foldAscii,
    String.toList_ofList]

theorem normalizedEmail_normalizedEmail (email : String) :
    normalizedEmail (normalizedEmail email) = normalizedEmail email := by
  apply String.toList_injective
  rw [normalizedEmail_toList, normalizedEmail_toList, Text.trim_map_toLower, List.map_map]
  have htrim : Text.trim (Text.trim email.toList) = Text.trim email.toList :=
    Text.trimMatches_trimMatches email.toList
  rw [htrim]
  exact List.map_congr_left fun c _ => Text.toLower_toLower c

theorem toAsciiLowercase_normalizedEmail (email : String) :
    toAsciiLowercase (normalizedEmail email) = normalizedEmail email := by
  apply String.toList_injective
  rw [toAsciiLowercase, String.toList_ofList, Text.foldAscii, normalizedEmail_toList, List.map_map]
  exact List.map_congr_left fun c _ => Text.toLower_toLower c

theorem NormalEmail.lowercase {email : String} (h : NormalEmail email) :
    toAsciiLowercase email = email := by
  have hlower := toAsciiLowercase_normalizedEmail email
  rw [h.normalized] at hlower
  exact hlower

theorem normalEmail_normalizedEmail {email : String} (h : normalizedEmail email ≠ "") :
    NormalEmail (normalizedEmail email) := ⟨normalizedEmail_normalizedEmail email, h⟩

theorem normalEmail_of_mem {emails : List String} (hmem : email ∈ normalizedEmails emails) :
    NormalEmail email := by
  obtain ⟨hmem, hne⟩ := List.mem_filter.mp hmem
  obtain ⟨given, _, rfl⟩ := List.mem_map.mp hmem
  exact normalEmail_normalizedEmail (by simpa using hne)

theorem normalizedEmails_of_normal {emails : List String}
    (h : ∀ email ∈ emails, NormalEmail email) : normalizedEmails emails = emails := by
  have hmap : emails.map normalizedEmail = emails := by
    have hid := List.map_congr_left fun email hmem => (h email hmem).normalized
    exact hid.trans (List.map_id' emails)
  rw [normalizedEmails, hmap, List.filter_eq_self]
  intro email hmem
  simpa using (h email hmem).nonempty

end Normalization

/-- The addresses in a contact file. -/
def ContactFile.emails (file : ContactFile) : List String :=
  match file.content with
  | .parsed frontmatter _ => frontmatter.emails
  | .invalid _ => []

/-- A file that reads as a contact of the uid in its name, with normal addresses. -/
structure ContactFile.Holds (file : ContactFile) (frontmatter : ContactFrontmatter) : Prop where
  content : ∃ notes, file.content = .parsed frontmatter notes
  uid : contactUidFromFileName file.stem = some frontmatter.contactUid
  normal : ∀ email ∈ frontmatter.emails, NormalEmail email

namespace ContactFile.Holds
variable {file : ContactFile} {frontmatter other : ContactFrontmatter}

theorem emails (h : file.Holds frontmatter) : file.emails = frontmatter.emails := by
  obtain ⟨notes, hcontent⟩ := h.content
  rw [ContactFile.emails, hcontent]

theorem unique (h : file.Holds frontmatter) (h' : file.Holds other) : frontmatter = other := by
  obtain ⟨notes, hcontent⟩ := h.content
  obtain ⟨notes', hcontent'⟩ := h'.content
  exact (ContactContent.parsed.inj (hcontent.symm.trans hcontent')).1

end ContactFile.Holds

/-- Every file holds a contact, no two of the same uid, and no address is there twice. -/
structure ContactsValid (files : List ContactFile) : Prop where
  holds : ∀ file ∈ files, ∃ frontmatter, file.Holds frontmatter
  uids : (files.map fun file => contactUidFromFileName file.stem).Nodup
  emails : (files.flatMap (·.emails)).Nodup

namespace ContactsValid
variable {files files' : List ContactFile} {file : ContactFile}

theorem nil : ContactsValid [] := ⟨fun _ hmem => (nomatch hmem), .nil, .nil⟩

theorem perm (h : ContactsValid files) (hperm : files.Perm files') : ContactsValid files' where
  holds file hmem := h.holds file (hperm.mem_iff.mpr hmem)
  uids := (hperm.map _).nodup_iff.mp h.uids
  emails := (hperm.flatMap_right _).nodup_iff.mp h.emails

theorem cons_iff : ContactsValid (file :: files) ↔
    (∃ frontmatter, file.Holds frontmatter) ∧
      (∀ other ∈ files, contactUidFromFileName other.stem ≠ contactUidFromFileName file.stem) ∧
      file.emails.Nodup ∧ (∀ email ∈ file.emails, ∀ other ∈ files, email ∉ other.emails) ∧
      ContactsValid files := by
  constructor
  · intro h
    obtain ⟨hfile, hfiles⟩ := List.forall_mem_cons.mp h.holds
    have huids := h.uids
    rw [List.map_cons, List.nodup_cons] at huids
    have hemails := h.emails
    rw [List.flatMap_cons, List.nodup_append'] at hemails
    refine ⟨hfile, ?_, hemails.1, ?_, hfiles, huids.2, hemails.2.1⟩
    · intro other hmem heq
      exact huids.1 (List.mem_map.mpr ⟨other, hmem, heq⟩)
    · intro email hmem other hother hin
      exact hemails.2.2 hmem (List.mem_flatMap.mpr ⟨other, hother, hin⟩)
  · intro ⟨hfile, huids, hemails, hdisjoint, h⟩
    refine ⟨List.forall_mem_cons.mpr ⟨hfile, h.holds⟩, ?_, ?_⟩
    · rw [List.map_cons, List.nodup_cons]
      refine ⟨fun hmem => ?_, h.uids⟩
      obtain ⟨other, hother, heq⟩ := List.mem_map.mp hmem
      exact huids other hother heq
    · rw [List.flatMap_cons, List.nodup_append']
      refine ⟨hemails, h.emails, ?_⟩
      intro email hmem hin
      obtain ⟨other, hother, hheld⟩ := List.mem_flatMap.mp hin
      exact hdisjoint email hmem other hother hheld

end ContactsValid

section Index
variable {index : ContactEmailIndex} {files : List ContactFile} {file : ContactFile}
  {frontmatter : ContactFrontmatter} {path : String}

/-- An index without complaints that finds an address where a file holds it. -/
structure ContactEmailIndex.Indexes (index : ContactEmailIndex) (files : List ContactFile) :
    Prop where
  diagnostics : index.diagnostics = []
  lookup : ∀ (email : String) frontmatter, index.map[email]? = some frontmatter ↔
    ∃ file ∈ files, file.Holds frontmatter ∧ email ∈ frontmatter.emails

theorem foldl_addEmail {emails : List String} (hdiagnostics : index.diagnostics = [])
    (hnormal : ∀ email ∈ emails, NormalEmail email) (hnodup : emails.Nodup)
    (hfree : ∀ (email : String), email ∈ emails → index.map[email]? = none) :
    let after := emails.foldl (ContactEmailIndex.addEmail path frontmatter) index
    after.diagnostics = [] ∧ ∀ (email : String), after.map[email]? =
      if email ∈ emails then some frontmatter else index.map[email]? := by
  induction emails generalizing index with
  | nil => exact ⟨hdiagnostics, fun email => (if_neg List.not_mem_nil).symm⟩
  | cons first rest ih =>
    obtain ⟨hfirst, hrest⟩ := List.forall_mem_cons.mp hnormal
    obtain ⟨hnot, hnodup⟩ := List.nodup_cons.mp hnodup
    have hadded : ContactEmailIndex.addEmail path frontmatter index first =
        { index with map := index.map.insert first frontmatter } := by
      rw [ContactEmailIndex.addEmail]
      simp only [hfirst.normalized, if_neg hfirst.nonempty,
        hfree first List.mem_cons_self]
    have hfree : ∀ (email : String), email ∈ rest →
        (index.map.insert first frontmatter)[email]? = none := by
      intro email hmem
      have hne : email ≠ first := fun heq => hnot (heq ▸ hmem)
      rw [Indexing.getElem?_insert_ne hne]
      exact hfree email (List.mem_cons_of_mem _ hmem)
    rw [List.foldl_cons, hadded]
    obtain ⟨hreports, hlookup⟩ := @ih { index with map := index.map.insert first frontmatter }
      hdiagnostics hrest hnodup hfree
    refine ⟨hreports, fun email => ?_⟩
    rw [hlookup email]
    by_cases heq : email = first
    · rw [heq, if_neg hnot, if_pos List.mem_cons_self, Std.ExtTreeMap.getElem?_insert_self]
    · have hiff : email ∈ first :: rest ↔ email ∈ rest := by
        rw [List.mem_cons]
        exact or_iff_right heq
      simp only [hiff, Indexing.getElem?_insert_ne heq]

theorem indexes_addEntry {entry : ContactEntry} (h : index.Indexes files)
    (hholds : entry.file.Holds frontmatter)
    (huid : contactUidFromFileName entry.file.stem = some entry.uid)
    (hnodup : entry.file.emails.Nodup)
    (hfree : ∀ email ∈ entry.file.emails, ∀ file ∈ files, email ∉ file.emails) :
    (index.addEntry entry).Indexes (entry.file :: files) := by
  obtain ⟨notes, hcontent⟩ := hholds.content
  rw [hholds.emails] at hnodup hfree
  have hsame : frontmatter.contactUid = entry.uid := Option.some.inj (hholds.uid.symm.trans huid)
  have hmissing : ∀ (email : String), email ∈ frontmatter.emails → index.map[email]? = none := by
    intro email hmem
    rw [Option.eq_none_iff_forall_ne_some]
    intro found hfound
    obtain ⟨file, hfile, hheld, hin⟩ := (h.lookup email found).mp hfound
    rw [← hheld.emails] at hin
    exact hfree email hmem file hfile hin
  have hadded : index.addEntry entry = frontmatter.emails.foldl
      (ContactEmailIndex.addEmail entry.file.path frontmatter) index := by
    rw [ContactEmailIndex.addEntry, hcontent]
    simp only [ContactEmailIndex.checkUid, if_pos hsame]
  obtain ⟨hreports, hlookup⟩ := @foldl_addEmail index frontmatter entry.file.path _ h.diagnostics
    hholds.normal hnodup hmissing
  rw [hadded]
  refine ⟨hreports, fun email found => ?_⟩
  rw [hlookup email]
  constructor
  · intro hfound
    split at hfound
    · rename_i hmem
      cases hfound
      exact ⟨entry.file, List.mem_cons_self, hholds, hmem⟩
    · obtain ⟨file, hfile, hheld⟩ := (h.lookup email found).mp hfound
      exact ⟨file, List.mem_cons_of_mem _ hfile, hheld⟩
  · intro ⟨file, hfile, hheld, hin⟩
    rcases List.mem_cons.mp hfile with rfl | hfile
    · rw [hheld.unique hholds] at hin ⊢
      exact if_pos hin
    · have hfound := (h.lookup email found).mpr ⟨file, hfile, hheld, hin⟩
      rw [if_neg]
      · exact hfound
      · intro hmem
        cases (hmissing email hmem).symm.trans hfound

theorem indexes_foldl {entries : List ContactEntry} (h : index.Indexes files)
    (hvalid : ContactsValid (entries.map (·.file) ++ files))
    (huids : ∀ entry ∈ entries, contactUidFromFileName entry.file.stem = some entry.uid) :
    (entries.foldl ContactEmailIndex.addEntry index).Indexes (entries.map (·.file) ++ files) := by
  induction entries generalizing index files with
  | nil => exact h
  | cons entry rest ih =>
    obtain ⟨huid, huids⟩ := List.forall_mem_cons.mp huids
    rw [List.map_cons, List.cons_append] at hvalid ⊢
    obtain ⟨⟨frontmatter, hholds⟩, _, hnodup, hfree, _⟩ := ContactsValid.cons_iff.mp hvalid
    have hadded := indexes_addEntry h hholds huid hnodup fun email hmem file hfile =>
      hfree email hmem file (List.mem_append_right _ hfile)
    have hmiddle : (rest.map (·.file) ++ entry.file :: files).Perm
        (entry.file :: (rest.map (·.file) ++ files)) := List.perm_middle
    obtain ⟨hreports, hlookup⟩ := ih hadded (hvalid.perm hmiddle.symm) huids
    refine ⟨hreports, fun email found => ?_⟩
    rw [List.foldl_cons, hlookup email found]
    apply exists_congr
    intro file
    rw [hmiddle.mem_iff]

end Index

section Complaints
variable {index : ContactEmailIndex} {path : String} {frontmatter : ContactFrontmatter}

theorem addEmail_free (email : String)
    (hclean : (index.addEmail path frontmatter email).diagnostics = []) :
    index.diagnostics = [] ∧ (normalizedEmail email = "" ∧ index.addEmail path frontmatter email = index ∨
      normalizedEmail email ≠ "" ∧ index.map[normalizedEmail email]? = none ∧
        (index.addEmail path frontmatter email).map =
          index.map.insert (normalizedEmail email) frontmatter) := by
  unfold ContactEmailIndex.addEmail at hclean ⊢
  dsimp only at hclean ⊢
  split at hclean
  · rename_i hblank
    rw [if_pos hblank]
    exact ⟨hclean, .inl ⟨hblank, rfl⟩⟩
  · rename_i hnonempty
    rw [if_neg hnonempty]
    split at hclean
    · cases (List.append_eq_nil_iff.mp hclean).2
    · rename_i hfree
      exact ⟨hclean, .inr ⟨hnonempty, hfree, rfl⟩⟩

/-- Addresses that are entered without a complaint are distinct, and none was taken. -/
theorem nodup_of_foldl_addEmail {emails : List String}
    (hclean : (emails.foldl (ContactEmailIndex.addEmail path frontmatter) index).diagnostics = []) :
    index.diagnostics = [] ∧ (normalizedEmails emails).Nodup ∧
      ∀ (email : String), email ∈ normalizedEmails emails → index.map[email]? = none := by
  induction emails generalizing index with
  | nil => exact ⟨hclean, .nil, fun _ hmem => nomatch hmem⟩
  | cons first rest ih =>
    rw [List.foldl_cons] at hclean
    obtain ⟨hfirst, hnodup, hfree⟩ := ih hclean
    obtain ⟨hstart, hadded⟩ := addEmail_free first hfirst
    have hcons : normalizedEmails (first :: rest) =
        if normalizedEmail first = "" then normalizedEmails rest
        else normalizedEmail first :: normalizedEmails rest := by
      simp only [normalizedEmails, List.map_cons, List.filter_cons, bne_iff_ne, ne_eq, ite_not]
    refine ⟨hstart, ?_⟩
    rw [hcons]
    rcases hadded with ⟨hblank, hsame⟩ | ⟨hnonempty, hnew, hmap⟩
    · rw [if_pos hblank]
      rw [hsame] at hfree
      exact ⟨hnodup, hfree⟩
    · rw [if_neg hnonempty]
      rw [hmap] at hfree
      refine ⟨List.nodup_cons.mpr ⟨?_, hnodup⟩, ?_⟩
      · intro hmem
        have hnone := hfree _ hmem
        rw [Std.ExtTreeMap.getElem?_insert_self] at hnone
        cases hnone
      · intro email hmem
        rcases List.mem_cons.mp hmem with rfl | hmem
        · exact hnew
        · have hnone := hfree email hmem
          rw [Std.ExtTreeMap.getElem?_insert] at hnone
          split at hnone
          · cases hnone
          · exact hnone

theorem nodup_of_addEntry {entry : ContactEntry} (hclean : (index.addEntry entry).diagnostics = []) :
    index.diagnostics = [] ∧ ∀ frontmatter notes, entry.file.content = .parsed frontmatter notes →
      (normalizedEmails frontmatter.emails).Nodup := by
  unfold ContactEmailIndex.addEntry at hclean
  split at hclean
  · cases (List.append_eq_nil_iff.mp hclean).2
  · rename_i held notes hcontent
    obtain ⟨hchecked, hnodup, _⟩ := nodup_of_foldl_addEmail hclean
    have hstart : index.diagnostics = [] := by
      unfold ContactEmailIndex.checkUid at hchecked
      split at hchecked
      · exact hchecked
      · cases (List.append_eq_nil_iff.mp hchecked).2
    refine ⟨hstart, fun frontmatter others hparsed => ?_⟩
    cases hcontent.symm.trans hparsed
    exact hnodup

theorem nodup_of_foldl_addEntry {entries : List ContactEntry}
    (hclean : (entries.foldl ContactEmailIndex.addEntry index).diagnostics = []) :
    index.diagnostics = [] ∧ ∀ entry ∈ entries, ∀ frontmatter notes,
      entry.file.content = .parsed frontmatter notes → (normalizedEmails frontmatter.emails).Nodup := by
  induction entries generalizing index with
  | nil => exact ⟨hclean, fun _ hmem => nomatch hmem⟩
  | cons entry rest ih =>
    rw [List.foldl_cons] at hclean
    obtain ⟨hadded, hrest⟩ := ih hclean
    obtain ⟨hstart, hentry⟩ := nodup_of_addEntry hadded
    exact ⟨hstart, List.forall_mem_cons.mpr ⟨hentry, hrest⟩⟩

theorem nodup_of_strictContactEmailMap {w : Workspace} {file : ContactFile} {uid notes : String}
    {map : Std.ExtTreeMap String ContactFrontmatter} (hmap : w.strictContactEmailMap = .ok map)
    (hfile : file ∈ w.contacts) (huid : contactUidFromFileName file.stem = some uid)
    (hcontent : file.content = .parsed frontmatter notes) :
    (normalizedEmails frontmatter.emails).Nodup := by
  obtain ⟨hclean, _⟩ := Result.seq_ok hmap
  have hdiagnostics := List.isEmpty_iff.mp (ensure_eq_ok_iff.mp hclean)
  have hentry : (⟨uid, file⟩ : ContactEntry) ∈ w.allActiveContactEntries := by
    rw [Workspace.allActiveContactEntries, List.mem_insertionSort, List.mem_filterMap]
    exact ⟨file, hfile, by rw [huid]; rfl⟩
  exact (nodup_of_foldl_addEntry hdiagnostics).2 _ hentry frontmatter notes hcontent

end Complaints

/-- What the contact files of a workspace say together: no file and no address is complained
about, every address is held at most once, and looking an address up finds the contact that
holds it. -/
structure Workspace.ContactIndexSound (w : Workspace) : Prop where
  diagnostics : w.buildContactEmailIndex.diagnostics = []
  emails : (w.activeContacts.flatMap fun contact => normalizedEmails contact.emails).Nodup
  lookup : ∀ (email : String) contact,
    w.buildContactEmailIndex.map[normalizedEmail email]? = some contact ↔
      contact ∈ w.activeContacts ∧ normalizedEmail email ∈ normalizedEmails contact.emails

namespace ContactsValid
variable {w : Workspace}

theorem entry_uid {entry : ContactEntry} (hmem : entry ∈ w.allActiveContactEntries) :
    entry.file ∈ w.contacts ∧ contactUidFromFileName entry.file.stem = some entry.uid := by
  rw [Workspace.allActiveContactEntries, List.mem_insertionSort] at hmem
  obtain ⟨file, hfile, hentry⟩ := List.mem_filterMap.mp hmem
  obtain ⟨uid, huid, rfl⟩ := Option.map_eq_some_iff.mp hentry
  exact ⟨hfile, huid⟩

theorem entries_perm (h : ContactsValid w.contacts) :
    (w.allActiveContactEntries.map (·.file)).Perm w.contacts := by
  have hfiles : ∀ files : List ContactFile, (∀ file ∈ files, ∃ frontmatter, file.Holds frontmatter) →
      (files.filterMap fun file => (contactUidFromFileName file.stem).map fun uid =>
        (⟨uid, file⟩ : ContactEntry)).map (·.file) = files := by
    intro files hholds
    induction files with
    | nil => rfl
    | cons file rest ih =>
      obtain ⟨⟨frontmatter, hfile⟩, hrest⟩ := List.forall_mem_cons.mp hholds
      rw [List.filterMap_cons, hfile.uid]
      exact congrArg (file :: ·) (ih hrest)
  have hsorted := (List.perm_insertionSort (fun a b : ContactEntry => a.uid ≤ b.uid)
    (w.contacts.filterMap fun file => (contactUidFromFileName file.stem).map fun uid =>
      (⟨uid, file⟩ : ContactEntry))).map (·.file)
  rw [hfiles w.contacts h.holds] at hsorted
  exact hsorted

theorem indexes (h : ContactsValid w.contacts) :
    w.buildContactEmailIndex.Indexes w.contacts := by
  have hempty : ContactEmailIndex.Indexes {} [] := by
    refine ⟨rfl, fun email found => ⟨fun hfound => ?_, fun ⟨_, hmem, _⟩ => nomatch hmem⟩⟩
    have hnone : (∅ : Std.ExtTreeMap String ContactFrontmatter)[email]? = none :=
      Std.ExtTreeMap.getElem?_empty
    cases hnone.symm.trans hfound
  have hvalid : ContactsValid (w.allActiveContactEntries.map (·.file) ++ []) := by
    rw [List.append_nil]
    exact h.perm h.entries_perm.symm
  have hindexes := indexes_foldl hempty hvalid fun entry hmem => (entry_uid hmem).2
  refine ⟨hindexes.diagnostics, fun email found => ?_⟩
  rw [Workspace.buildContactEmailIndex, hindexes.lookup email found, List.append_nil]
  apply exists_congr
  intro file
  rw [h.entries_perm.mem_iff]

theorem readContact_holds {file : ContactFile} {frontmatter : ContactFrontmatter}
    (h : file.Holds frontmatter) :
    (readContact file).toOption.map (·.1) = some frontmatter := by
  obtain ⟨notes, hcontent⟩ := h.content
  rw [readContact, hcontent]
  rfl

theorem mem_activeContacts (h : ContactsValid w.contacts) {contact : ContactFrontmatter} :
    contact ∈ w.activeContacts ↔ ∃ file ∈ w.contacts, file.Holds contact := by
  rw [Workspace.activeContacts, List.mem_filterMap]
  constructor
  · intro ⟨entry, hentry, hread⟩
    obtain ⟨hfile, _⟩ := entry_uid hentry
    obtain ⟨frontmatter, hholds⟩ := h.holds entry.file hfile
    rw [readContact_holds hholds] at hread
    exact ⟨entry.file, hfile, Option.some.inj hread ▸ hholds⟩
  · intro ⟨file, hfile, hholds⟩
    obtain ⟨entry, hentry, rfl⟩ := List.mem_map.mp (h.entries_perm.mem_iff.mpr hfile)
    exact ⟨entry, hentry, readContact_holds hholds⟩

theorem activeContacts_emails (h : ContactsValid w.contacts) :
    (w.activeContacts.flatMap fun contact => normalizedEmails contact.emails) =
      (w.allActiveContactEntries.map (·.file)).flatMap (·.emails) := by
  have hentries : ∀ entries : List ContactEntry,
      (∀ entry ∈ entries, ∃ frontmatter, entry.file.Holds frontmatter) →
        (entries.filterMap fun entry => (readContact entry.file).toOption.map (·.1)).flatMap
          (fun contact => normalizedEmails contact.emails) =
            (entries.map (·.file)).flatMap (·.emails) := by
    intro entries hholds
    induction entries with
    | nil => rfl
    | cons entry rest ih =>
      obtain ⟨⟨frontmatter, hentry⟩, hrest⟩ := List.forall_mem_cons.mp hholds
      rw [List.filterMap_cons, readContact_holds hentry, List.map_cons, List.flatMap_cons,
        List.flatMap_cons, ih hrest, hentry.emails, normalizedEmails_of_normal hentry.normal]
  apply hentries
  intro entry hentry
  exact h.holds entry.file (entry_uid hentry).1

theorem sound (h : ContactsValid w.contacts) : w.ContactIndexSound where
  diagnostics := h.indexes.diagnostics
  emails := by
    rw [h.activeContacts_emails]
    exact (h.perm h.entries_perm.symm).emails
  lookup email contact := by
    rw [h.indexes.lookup, h.mem_activeContacts]
    constructor
    · intro ⟨file, hfile, hholds, hmem⟩
      refine ⟨⟨file, hfile, hholds⟩, ?_⟩
      rw [normalizedEmails_of_normal hholds.normal]
      exact hmem
    · intro ⟨⟨file, hfile, hholds⟩, hmem⟩
      rw [normalizedEmails_of_normal hholds.normal] at hmem
      exact ⟨file, hfile, hholds, hmem⟩

end ContactsValid
end AgentFirstMail
