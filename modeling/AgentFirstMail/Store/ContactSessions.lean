import AgentFirstMail.Config.Defaults
import AgentFirstMail.Store.ContactEdits
import AgentFirstMail.Store.Keeping

namespace AgentFirstMail
open Effect Command

namespace ContactsValid
variable {w : Workspace} {file : ContactFile} {frontmatter : ContactFrontmatter} {uid : String}

theorem strictContactEmailMap (h : ContactsValid w.contacts)
    (hmap : w.strictContactEmailMap = .ok map) (email : String) (contact : ContactFrontmatter) :
    map[email]? = some contact ↔
      ∃ file ∈ w.contacts, file.Holds contact ∧ email ∈ contact.emails := by
  obtain ⟨_, hmap⟩ := Result.seq_ok hmap
  cases hmap
  exact h.indexes.lookup email contact

theorem free_of_unique (h : ContactsValid w.contacts) (hmap : w.strictContactEmailMap = .ok map)
    (hnormal : NormalEmail email) (hunique : assertEmailUniqueInMap map email excluding = .ok ()) :
    (∃ contact, excluding = some contact.contactUid ∧ ∃ file ∈ w.contacts,
      file.Holds contact ∧ email ∈ contact.emails) ∨
        ∀ file ∈ w.contacts, email ∉ file.emails := by
  have hlookup := h.strictContactEmailMap hmap email
  rw [assertEmailUniqueInMap, hnormal.normalized] at hunique
  cases hfound : map[email]? with
  | some contact =>
    simp only [hfound, ensure_eq_ok_iff, Bool.or_eq_true, beq_iff_eq, hnormal.nonempty,
      false_or] at hunique
    exact .inl ⟨contact, hunique, (hlookup contact).mp hfound⟩
  | none =>
    refine .inr fun file hfile hmem => ?_
    obtain ⟨contact, hholds⟩ := h.holds file hfile
    rw [hholds.emails] at hmem
    cases hfound.symm.trans ((hlookup contact).mpr ⟨file, hfile, hholds, hmem⟩)

theorem findActiveContact (hfind : w.findActiveContact uid = .ok file) :
    file ∈ w.contacts ∧ contactUidFromFileName file.stem = some uid := by
  rw [Workspace.findActiveContact] at hfind
  split at hfind
  · rename_i entry hentry
    cases hfind
    obtain ⟨hmem, huid⟩ := entry_uid (List.mem_of_find?_eq_some hentry)
    have heq : entry.uid = uid := beq_iff_eq.mp (List.find?_some hentry :)
    exact ⟨hmem, heq ▸ huid⟩
  · cases hfind

theorem eq_of_uid (h : ContactsValid w.contacts) (hfile : file ∈ w.contacts)
    (hother : other ∈ w.contacts)
    (huid : contactUidFromFileName other.stem = contactUidFromFileName file.stem) :
    other = file := List.inj_on_of_nodup_map h.uids hother hfile huid

theorem emails_nodup (h : ContactsValid w.contacts) (hfile : file ∈ w.contacts) :
    file.emails.Nodup := by
  obtain ⟨before, after, hcontacts, _⟩ := h.split hfile
  rw [hcontacts] at h
  exact (cons_iff.mp (h.perm List.perm_middle)).2.2.1

theorem holds_of_readContact (h : ContactsValid w.contacts) (hfile : file ∈ w.contacts)
    (hread : readContact file = .ok (frontmatter, notes)) : file.Holds frontmatter := by
  obtain ⟨contact, hholds⟩ := h.holds file hfile
  have hsame := readContact_holds hholds
  rw [hread] at hsame
  have heq : frontmatter = contact := Option.some.inj hsame
  rw [heq]
  exact hholds

theorem edit (h : ContactsValid w.contacts) (hfile : file ∈ w.contacts)
    (hholds : file.Holds frontmatter) (edited : ContactFrontmatter)
    (huid : edited.contactUid = frontmatter.contactUid) (hnodup : edited.emails.Nodup)
    (hnormal : ∀ email ∈ edited.emails, NormalEmail email)
    (hfree : ∀ email ∈ edited.emails, email ∈ frontmatter.emails ∨
      ∀ other ∈ w.contacts, email ∉ other.emails) (body : String) :
    ContactsValid (w.writeContact ⟨file.group, file.stem, .parsed edited body⟩).contacts := by
  rw [← hholds.emails] at hfree
  have hedited : ContactFile.Holds ⟨file.group, file.stem, .parsed edited body⟩ edited :=
    ⟨⟨body, rfl⟩, hholds.uid.trans (huid ▸ rfl), hnormal⟩
  exact h.writeContact hfile rfl rfl hedited hnodup hfree

theorem create (h : ContactsValid w.contacts) (created : ContactFrontmatter)
    (huid : w.nextContactUidForDate date = .ok created.contactUid)
    (hnodup : created.emails.Nodup) (hnormal : ∀ email ∈ created.emails, NormalEmail email)
    (hfree : ∀ email ∈ created.emails, ∀ other ∈ w.contacts, email ∉ other.emails)
    (humanSlug : String → String) (group name body : String) :
    ContactsValid (w.writeContact ⟨group, contactFileName humanSlug created.contactUid name,
      .parsed created body⟩).contacts := by
  obtain ⟨hvalid, hnew⟩ := nextUidForDate_fresh huid
  have hstem := contactUidFromFileName_contactFileName humanSlug name hvalid
  have hcreated : ContactFile.Holds ⟨group, contactFileName humanSlug created.contactUid name,
      .parsed created body⟩ created := ⟨⟨body, rfl⟩, hstem, hnormal⟩
  refine h.writeContact_new hcreated ?_ hnodup hfree
  intro other hother heq
  obtain ⟨entry, hentry, rfl⟩ := List.mem_map.mp (h.entries_perm.mem_iff.mpr hother)
  have hentryUid := (entry_uid hentry).2
  rw [heq, hstem] at hentryUid
  exact hnew (List.mem_map.mpr ⟨entry, hentry, (Option.some.inj hentryUid).symm⟩)

end ContactsValid

section Commands
variable {ι : Type} {host : ContactHost ι} {h : List RemoteEvent} {m : Process}
  {P Q : List ContactFile → Prop}
  {abort : AppError → ProcessFact}

/-- A property of the contact files. -/
abbrev ContactFiles (P : List ContactFile → Prop) : ProcessFact :=
  Keeping fun w => P w.contacts

/-- The contact files are valid. -/
abbrev Contacts : ProcessFact := ContactFiles ContactsValid

theorem contacts_check_bind {result : Result α} {next : α → Command β}
    (hfiles : ContactFiles P h m) {post : β → ProcessFact}
    (hpost : ∀ value, result = .ok value →
      Program.wp (ContactFiles P) post (fun _ => ContactFiles P) (next value) h m) :
    Program.wp (ContactFiles P) post (fun _ => ContactFiles P) (Program.ofExcept result >>= next)
      h m :=
  wp_check_bind hpost fun _ _ => hfiles

theorem contacts_write {change : Workspace → Workspace}
    {post : Unit → ProcessFact}
    (hchange : P (change m.workspace).contacts) (hpost : post () h (m.onWorkspace change)) :
    Program.wp (ContactFiles P) post abort (writeWorkspace change) h m := ⟨hchange, hpost⟩

theorem contacts_audit_bind {kind : String} {targets : List (String × String)}
    {reason : Option String} {next : Unit → Command α} (hfiles : ContactFiles P h m)
    {post : α → ProcessFact}
    (hpost : ∀ h' audit, Program.wp (ContactFiles P) post (fun _ => ContactFiles P) (next ()) h'
      (m.onWorkspace fun w => { w with audit })) :
    Program.wp (ContactFiles P) post (fun _ => ContactFiles P)
      (appendAuditEvent host.toHost kind targets reason >>= next) h m :=
  wp_then (keeping_appendAuditEvent (fun _ => hfiles) hpost fun _ _ => hfiles)

theorem contacts_writeContactMd {group stem body : String} {frontmatter : ContactFrontmatter}
    {post : Unit → ProcessFact}
    (hwritten : ∀ body,
      P (m.workspace.writeContact ⟨group, stem, .parsed frontmatter body⟩).contacts)
    (hpost : ∀ body, post () h
      (m.onWorkspace (·.writeContact ⟨group, stem, .parsed frontmatter body⟩))) :
    Program.wp (ContactFiles P) post abort (writeContactMd group stem frontmatter body) h m := by
  unfold writeContactMd
  apply wp_workspace_bind.mpr
  exact contacts_write (hwritten _) (hpost _)

theorem contacts_refreshViews (hfiles : ContactFiles P h m)
    {post : Unit → ProcessFact}
    (hpost : ∀ map, m.workspace.strictContactEmailMap = .ok map → post () h m) :
    Program.wp (ContactFiles P) post (fun _ => ContactFiles P) (refreshViewsAfterContactChange host) h m := by
  unfold refreshViewsAfterContactChange
  apply wp_workspace_bind.mpr
  apply contacts_check_bind hfiles
  intro map hmap
  exact wp_check (fun _ _ => hpost map hmap) fun _ _ => hfiles

theorem contacts_finish (hfiles : ContactFiles P h m) {refresh : Bool}
    (hdone : (refresh = true → ∃ map, m.workspace.strictContactEmailMap = .ok map) →
      ContactFiles Q h m) {report : α} :
    Program.wp (ContactFiles P) (fun _ => ContactFiles Q) (fun _ => ContactFiles P) (do
      if refresh then refreshViewsAfterContactChange host
      return report) h m := by
  cases refresh with
  | false => exact hdone fun hrefreshed => nomatch hrefreshed
  | true =>
    apply wp_then
    apply contacts_refreshViews hfiles
    intro map hmap
    exact hdone fun _ => ⟨map, hmap⟩

theorem contacts_createContactFile (hfiles : ContactFiles P h m) {group name : String}
    {frontmatter : String → ContactFrontmatter}
    {post : ContactFrontmatter × String → ProcessFact}
    (hcreated : ∀ uid body, m.workspace.nextContactUidForDate host.localDate = .ok uid →
      P (m.workspace.writeContact
        ⟨group, contactFileName host.humanSlug uid name, .parsed (frontmatter uid) body⟩).contacts)
    (hpost : ∀ uid body, m.workspace.nextContactUidForDate host.localDate = .ok uid →
      post (frontmatter uid, contactFileName host.humanSlug uid name) h
        (m.onWorkspace (·.writeContact
          ⟨group, contactFileName host.humanSlug uid name, .parsed (frontmatter uid) body⟩))) :
    Program.wp (ContactFiles P) post (fun _ => ContactFiles P)
      (createContactFile host group name frontmatter) h m := by
  unfold createContactFile
  apply wp_workspace_bind.mpr
  apply contacts_check_bind hfiles
  intro uid hnext
  apply contacts_check_bind hfiles
  intro body _
  apply wp_then
  apply contacts_writeContactMd
  · intro body
    exact hcreated uid body hnext
  · intro body
    exact hpost uid body hnext

/-- What a file for a new contact has to meet. -/
theorem contacts_contactCreate {params : NewContact} (hfiles : ContactFiles P h m)
    (hcreated : ∀ index (created : ContactFrontmatter) group body,
      m.workspace.strictContactEmailMap = .ok index →
      (∀ email ∈ created.emails, assertEmailUniqueInMap index email none = .ok ()) →
      m.workspace.nextContactUidForDate host.localDate = .ok created.contactUid →
      created.emails = normalizedEmails params.emails →
      let written := m.workspace.writeContact ⟨group, contactFileName host.humanSlug
        created.contactUid params.name, .parsed created body⟩
      P written.contacts ∧ ((created.emails ≠ [] → ∃ map, written.strictContactEmailMap = .ok map) →
        Q written.contacts)) :
    Program.wp (ContactFiles P) (fun _ => ContactFiles Q) (fun _ => ContactFiles P) (contactCreate host params) h m := by
  unfold contactCreate
  apply contacts_check_bind hfiles
  intro reason _
  apply contacts_check_bind hfiles
  intro _ _
  apply contacts_check_bind hfiles
  intro _ _
  apply wp_workspace_bind.mpr
  apply contacts_check_bind hfiles
  intro index hindex
  apply contacts_check_bind hfiles
  intro _ hunique
  have hunique := Result.forM_eq_ok_iff.mp hunique
  have hwritten (uid body : String) := hcreated index
    { contactUid := uid, displayName := params.name, emails := normalizedEmails params.emails
      phones := params.phones, organization := params.org.getD "", role := params.role.getD ""
      tags := params.tags, createdRfc3339 := host.now, updatedRfc3339 := host.now }
    (params.group.getD host.defaultGroup) body hindex hunique
  apply wp_then
  apply contacts_createContactFile hfiles
  · intro uid body hnext
    exact (hwritten uid body hnext rfl).1
  · intro uid body hnext
    obtain ⟨hkept, hdone⟩ := hwritten uid body hnext rfl
    apply contacts_audit_bind hkept
    intro h' audit
    apply contacts_finish hkept
    intro hrefreshed
    apply hdone
    intro hnonempty
    apply hrefreshed
    rw [Bool.not_eq_true', List.isEmpty_eq_false_iff]
    exact hnonempty

/-- No two addresses of a new contact are the same. -/
def NewContact.Distinct (params : NewContact) : Prop := (normalizedEmails params.emails).Nodup

theorem ContactsValid.createChecked {w : Workspace} {params : NewContact}
    {created : ContactFrontmatter} {index : Std.ExtTreeMap String ContactFrontmatter} {date : String}
    (hvalid : ContactsValid w.contacts) (hdistinct : params.Distinct)
    (hindex : w.strictContactEmailMap = .ok index)
    (hunique : ∀ email ∈ created.emails, assertEmailUniqueInMap index email none = .ok ())
    (hnext : w.nextContactUidForDate date = .ok created.contactUid)
    (hemails : created.emails = normalizedEmails params.emails) (humanSlug : String → String)
    (group body : String) :
    ContactsValid (w.writeContact ⟨group, contactFileName humanSlug created.contactUid params.name,
      .parsed created body⟩).contacts := by
  refine hvalid.create created hnext (hemails ▸ hdistinct) ?_ ?_ _ group params.name body
  · intro email hmem
    exact normalEmail_of_mem (hemails ▸ hmem)
  · intro email hmem
    have hnormal : NormalEmail email := normalEmail_of_mem (hemails ▸ hmem)
    rcases hvalid.free_of_unique hindex hnormal (hunique email hmem) with ⟨_, hexcluded, _⟩ | hfree
    · cases hexcluded
    · exact hfree

theorem ContactsValid.contactCreate {params : NewContact} (hvalid : Contacts h m)
    (hdistinct : params.Distinct) :
    Program.wp Contacts (fun _ => Contacts) (fun _ => Contacts)
      (contactCreate host params) h m := by
  apply contacts_contactCreate hvalid
  intro index created group body hindex hunique hnext hemails
  have hcreated := hvalid.createChecked hdistinct hindex hunique hnext hemails host.humanSlug group body
  exact ⟨hcreated, fun _ => hcreated⟩

theorem contacts_contactCreate_returned {params : NewContact}
    (hvalid : ContactsValid m.workspace.contacts) :
    Program.wp (ContactFiles fun _ => True) (fun _ => Contacts) (fun _ => ContactFiles fun _ => True)
      (contactCreate host params) h m := by
  apply contacts_contactCreate trivial
  intro index created group body hindex hunique hnext hemails
  refine ⟨trivial, fun hrefreshed => ?_⟩
  have hdistinct : params.Distinct := by
    unfold NewContact.Distinct
    rw [← hemails]
    cases hnone : created.emails with
    | nil => exact .nil
    | cons first rest =>
      obtain ⟨map, hmap⟩ := hrefreshed (by rw [hnone]; exact List.cons_ne_nil _ _)
      have hstem := contactUidFromFileName_contactFileName host.humanSlug params.name
        (nextUidForDate_fresh hnext).1
      have hnodup := nodup_of_strictContactEmailMap hmap (ContactsValid.mem_writeContact _ _) hstem rfl
      rw [hemails, normalizedEmails_of_normal fun email hmem => normalEmail_of_mem hmem,
        ← hemails, hnone] at hnodup
      exact hnodup
  exact hvalid.createChecked hdistinct hindex hunique hnext hemails host.humanSlug group body

theorem contacts_openContact {uid : String} (hvalid : Contacts h m)
    {post : ContactFile × ContactFrontmatter × String →
      ProcessFact}
    (hpost : ∀ file frontmatter body, file ∈ m.workspace.contacts →
      contactUidFromFileName file.stem = some uid → file.Holds frontmatter →
        post (file, frontmatter, body) h m) :
    Program.wp Contacts post (fun _ => Contacts) (openContact uid) h m := by
  unfold openContact
  apply wp_workspace_bind.mpr
  apply contacts_check_bind hvalid
  intro file hfind
  obtain ⟨hfile, huid⟩ := ContactsValid.findActiveContact hfind
  apply contacts_check_bind hvalid
  intro (frontmatter, body) hread
  exact hpost file frontmatter body hfile huid (hvalid.holds_of_readContact hfile hread)

theorem contacts_contactMove {contactRef newGroup : String} {reason : Option String}
    (hvalid : Contacts h m) :
    Program.wp Contacts (fun _ => Contacts) (fun _ => Contacts)
      (contactMove host contactRef newGroup reason) h m := by
  unfold contactMove
  apply contacts_check_bind hvalid
  intro reason _
  apply contacts_check_bind hvalid
  intro uid _
  apply contacts_check_bind hvalid
  intro _ _
  apply wp_workspace_bind.mpr
  apply contacts_check_bind hvalid
  intro file hfind
  obtain ⟨hfile, _⟩ := ContactsValid.findActiveContact hfind
  split
  · exact hvalid
  · have hmoved : ContactsValid (m.workspace.renameContact file newGroup file.stem).contacts :=
      hvalid.renameContact hfile (ContactFile.liesAt_iff.mpr ⟨rfl, rfl⟩) rfl
    apply wp_then
    apply contacts_write hmoved
    apply contacts_audit_bind hmoved
    intro h' audit
    exact hmoved

/-- The addresses of a contact stay, and the name of its file keeps its uid. -/
theorem contacts_contactRename {contactRef newName : String} {reason : Option String}
    (hvalid : Contacts h m) :
    Program.wp Contacts (fun _ => Contacts) (fun _ => Contacts)
      (contactRename host contactRef newName reason) h m := by
  unfold contactRename
  apply contacts_check_bind hvalid
  intro reason _
  apply contacts_check_bind hvalid
  intro uid _
  apply contacts_check_bind hvalid
  intro _ _
  apply wp_then
  apply contacts_openContact hvalid
  intro file frontmatter body hfile huid hholds
  have hnodup := hvalid.emails_nodup hfile
  rw [hholds.emails] at hnodup
  have hedited := hvalid.edit hfile hholds { frontmatter with
    displayName := newName, updatedRfc3339 := host.now } rfl hnodup hholds.normal
    fun _ hmem => .inl hmem
  apply wp_then
  apply contacts_writeContactMd hedited
  intro written
  have hname := contactUidFromFileName_contactFileName host.humanSlug newName
    (validUid_of_contactUidFromFileName huid)
  have hrenamed : ContactsValid ((m.workspace.writeContact _).renameContact file file.group
      (contactFileName host.humanSlug uid newName)).contacts :=
    (hedited written).renameContact (ContactsValid.mem_writeContact _ _)
      (ContactFile.liesAt_iff.mpr ⟨rfl, rfl⟩) (hname.trans huid.symm)
  dsimp only
  split
  · apply wp_then
    apply contacts_write hrenamed
    apply contacts_audit_bind hrenamed
    intro h' audit
    exact contacts_finish hrenamed fun _ => hrenamed
  · apply contacts_audit_bind (hedited written)
    intro h' audit
    exact contacts_finish (hedited written) fun _ => hedited written

/-- An address that the contact itself holds is not added again. -/
theorem contacts_contactEmailAdd {contactRef email : String} {reason : Option String}
    (hvalid : Contacts h m) :
    Program.wp Contacts (fun _ => Contacts) (fun _ => Contacts)
      (contactEmailAdd host contactRef email reason) h m := by
  unfold contactEmailAdd
  generalize hnormalized : normalizedEmail email = normalized
  apply contacts_check_bind hvalid
  intro reason _
  apply contacts_check_bind hvalid
  intro uid _
  apply contacts_check_bind hvalid
  intro _ hnonempty
  have hnormal : NormalEmail normalized := by
    rw [ensure_eq_ok_iff, bne_iff_ne, ← hnormalized] at hnonempty
    exact hnormalized ▸ normalEmail_normalizedEmail hnonempty
  apply wp_workspace_bind.mpr
  apply contacts_check_bind hvalid
  intro index hindex
  apply contacts_check_bind hvalid
  intro _ hunique
  apply wp_then
  apply contacts_openContact hvalid
  intro file frontmatter body hfile huid hholds
  have hown : ∀ contact : ContactFrontmatter, some uid = some contact.contactUid →
      (∃ other ∈ m.workspace.contacts, other.Holds contact ∧
        normalized ∈ contact.emails) → normalized ∈ frontmatter.emails := by
    intro contact hsame ⟨other, hother, hheld, hmem⟩
    have heq := hvalid.eq_of_uid hfile hother (hheld.uid.trans (hsame.symm.trans huid.symm))
    rw [heq] at hheld
    exact hheld.unique hholds ▸ hmem
  cases hheld : frontmatter.emails.any (toAsciiLowercase · == normalized) with
  | true =>
    simp only [hheld, Bool.not_true, Bool.false_eq_true, if_false]
    apply contacts_audit_bind hvalid
    intro h' audit
    exact hvalid
  | false =>
    have hmissing : normalized ∉ frontmatter.emails := by
      intro hmem
      rw [List.any_eq_false] at hheld
      apply hheld _ hmem
      rw [hnormal.lowercase, beq_self_eq_true]
    have hfree : ∀ other ∈ m.workspace.contacts, normalized ∉ other.emails := by
      rcases hvalid.free_of_unique hindex hnormal hunique with ⟨contact, hsame, hother⟩ | hfree
      · exact (hmissing (hown contact hsame hother)).elim
      · exact hfree
    have hnodup := hvalid.emails_nodup hfile
    rw [hholds.emails] at hnodup
    have hdistinct : (frontmatter.emails ++ [normalized]).Nodup := by
      rw [List.nodup_append_comm]
      exact List.nodup_cons.mpr ⟨hmissing, hnodup⟩
    have hedited := hvalid.edit hfile hholds { frontmatter with
      emails := frontmatter.emails ++ [normalized], updatedRfc3339 := host.now } rfl hdistinct
      (List.forall_mem_append.mpr ⟨hholds.normal, List.forall_mem_singleton.mpr hnormal⟩)
      (List.forall_mem_append.mpr ⟨fun _ hmem => .inl hmem,
        List.forall_mem_singleton.mpr (.inr hfree)⟩)
    simp only [hheld, Bool.not_false, if_true, Bool.false_eq_true, if_false]
    apply wp_then
    apply contacts_writeContactMd hedited
    intro written
    apply wp_then
    apply contacts_refreshViews (hedited written)
    intro _ _
    apply contacts_audit_bind (hedited written)
    intro h' audit
    exact hedited written

/-- Some addresses of a contact are left. -/
theorem contacts_contactEmailRemove {contactRef email : String} {reason : Option String}
    (hvalid : Contacts h m) :
    Program.wp Contacts (fun _ => Contacts) (fun _ => Contacts)
      (contactEmailRemove host contactRef email reason) h m := by
  unfold contactEmailRemove
  apply contacts_check_bind hvalid
  intro reason _
  apply contacts_check_bind hvalid
  intro uid _
  apply wp_then
  apply contacts_openContact hvalid
  intro file frontmatter body hfile huid hholds
  have hnodup := hvalid.emails_nodup hfile
  rw [hholds.emails] at hnodup
  have hedited := hvalid.edit hfile hholds { frontmatter with
    emails := frontmatter.emails.filter (toAsciiLowercase · != normalizedEmail email)
    updatedRfc3339 := host.now } rfl (hnodup.filter _)
    (fun other hmem => hholds.normal other (List.mem_of_mem_filter hmem))
    (fun _ hmem => .inl (List.mem_of_mem_filter hmem))
  dsimp only
  split
  · apply wp_then
    apply contacts_writeContactMd hedited
    intro written
    apply wp_then
    apply contacts_refreshViews (hedited written)
    intro _ _
    apply contacts_audit_bind (hedited written)
    intro h' audit
    exact hedited written
  · apply contacts_audit_bind hvalid
    intro h' audit
    exact hvalid

theorem contacts_contactDelete {contactRef : String} {allowNotes : Bool} {reason : Option String}
    (hvalid : Contacts h m) :
    Program.wp Contacts (fun _ => Contacts) (fun _ => Contacts)
      (contactDelete host contactRef allowNotes reason) h m := by
  unfold contactDelete
  apply contacts_check_bind hvalid
  intro uid _
  apply contacts_check_bind hvalid
  intro reason _
  apply wp_then
  apply contacts_openContact hvalid
  intro file frontmatter body hfile huid hholds
  apply contacts_check_bind hvalid
  intro _ _
  have hremoved := hvalid.removeContact file.group file.stem
  apply wp_then
  apply contacts_write hremoved
  apply contacts_audit_bind hremoved
  intro h' audit
  exact contacts_finish hremoved fun _ => hremoved

theorem emailAddress_normalized (value : String) :
    ∃ given, emailAddress value = normalizedEmail given := by
  have htrimmed : ∀ text : List Char, toAsciiLowercase (String.ofList (Text.trim text)) =
      normalizedEmail (String.ofList text) := by
    intro text
    rw [normalizedEmail, trimmed, String.toList_ofList]
  simp only [emailAddress]
  split
  · split
    · exact ⟨_, htrimmed _⟩
    · exact ⟨_, htrimmed _⟩
  · exact ⟨_, htrimmed _⟩

theorem senderPair_normal {header : String} {sender : String × String}
    (h : senderPair header = some sender) : NormalEmail sender.2 := by
  simp only [senderPair] at h
  split at h
  · cases h
  · rename_i hne
    cases h
    obtain ⟨given, hgiven⟩ := emailAddress_normalized header
    rw [hgiven] at hne ⊢
    exact normalEmail_normalizedEmail hne

/-- The index grows with the files: every address there is in it. -/
theorem contacts_extractSenders {group : String}
    {index : Std.ExtTreeMap String ContactFrontmatter} {report : ExtractReport}
    {senders : List (String × String)} (hvalid : Contacts h m)
    (hindex : ∀ file ∈ m.workspace.contacts, ∀ email ∈ file.emails, email ∈ index)
    (hnormal : ∀ sender ∈ senders, NormalEmail sender.2) :
    Program.wp Contacts (fun _ => Contacts) (fun _ => Contacts)
      (extractSenders host group index report senders) h m := by
  induction senders generalizing index report h m with
  | nil => exact hvalid
  | cons sender rest ih =>
    obtain ⟨hsender, hrest⟩ := List.forall_mem_cons.mp hnormal
    unfold extractSenders
    rw [hsender.lowercase]
    dsimp only
    split
    · exact ih hvalid hindex hrest
    · rename_i hnew
      apply wp_then
      have hcreated (name uid body : String)
          (hnext : m.workspace.nextContactUidForDate host.localDate = .ok uid) :
          ContactsValid (m.workspace.writeContact ⟨group, contactFileName host.humanSlug uid name,
            .parsed { contactUid := uid, displayName := name, emails := [sender.2]
                      createdRfc3339 := host.now, updatedRfc3339 := host.now } body⟩).contacts := by
        refine hvalid.create { contactUid := uid, displayName := name, emails := [sender.2]
                               createdRfc3339 := host.now, updatedRfc3339 := host.now }
          hnext (List.nodup_singleton sender.2) ?_ ?_ _ group name body
        · exact List.forall_mem_singleton.mpr hsender
        · intro email hmem file hfile hheld
          rw [List.mem_singleton.mp hmem] at hheld
          exact hnew (hindex file hfile _ hheld)
      apply contacts_createContactFile hvalid
      · intro uid body hnext
        exact hcreated _ uid body hnext
      · intro uid body hnext
        have hcreated := hcreated (if sender.1.isEmpty then sender.2 else sender.1) uid body hnext
        apply contacts_audit_bind hcreated
        intro h' audit
        apply ih hcreated _ hrest
        intro file hfile email hemail
        rw [Std.ExtTreeMap.mem_insert]
        rcases Workspace.mem_of_mem_writeContact hfile with rfl | hfile
        · exact .inl (by rw [List.mem_singleton.mp hemail]; exact Std.compare_self)
        · exact .inr (hindex file hfile email hemail)

theorem contacts_contactExtract {source : ι} {group : Option String} (hvalid : Contacts h m) :
    Program.wp Contacts (fun _ => Contacts) (fun _ => Contacts)
      (contactExtract host source group) h m := by
  unfold contactExtract
  apply contacts_check_bind hvalid
  intro _ _
  apply contacts_check_bind hvalid
  intro headers _
  apply wp_workspace_bind.mpr
  apply contacts_check_bind hvalid
  intro index hindex
  apply Program.wp_seq
  · apply contacts_extractSenders hvalid
    · intro file hfile email hmem
      obtain ⟨contact, hholds⟩ := hvalid.holds file hfile
      rw [hholds.emails] at hmem
      rw [Std.ExtTreeMap.mem_iff_isSome_getElem?,
        (hvalid.strictContactEmailMap hindex email contact).mpr ⟨file, hfile, hholds, hmem⟩]
      rfl
    · intro sender hmem
      obtain ⟨header, _, hsender⟩ := List.mem_filterMap.mp hmem
      exact senderPair_normal hsender
  · intro report h' m' hextracted
    split
    · exact wp_then (contacts_refreshViews hextracted fun _ _ => hextracted)
    · exact hextracted

end Commands

/-- The commands on contacts; a contact is created as `admits` allows. -/
inductive ContactEdit (admits : NewContact → Prop) : {α : Type} → Command α → Prop
  | create (host : ContactHost ι) (params : NewContact) :
      admits params → ContactEdit admits (contactCreate host params)
  | move (host : ContactHost ι) (contactRef newGroup : String) (reason : Option String) :
      ContactEdit admits (contactMove host contactRef newGroup reason)
  | rename (host : ContactHost ι) (contactRef newName : String) (reason : Option String) :
      ContactEdit admits (contactRename host contactRef newName reason)
  | emailAdd (host : ContactHost ι) (contactRef email : String) (reason : Option String) :
      ContactEdit admits (contactEmailAdd host contactRef email reason)
  | emailRemove (host : ContactHost ι) (contactRef email : String) (reason : Option String) :
      ContactEdit admits (contactEmailRemove host contactRef email reason)
  | delete (host : ContactHost ι) (contactRef : String) (allowNotes : Bool)
      (reason : Option String) :
      ContactEdit admits (contactDelete host contactRef allowNotes reason)
  | extract (host : ContactHost ι) (source : ι) (group : Option String) :
      ContactEdit admits (contactExtract host source group)

/-- A contact command that succeeds, one that fails or is cut off, which creates no contact with
an address given twice, or anything that leaves the contacts alone. -/
inductive ContactSession : Workspace → List RemoteEvent → Workspace → Prop
  | returned {program : Command α} {m m' : Process} : ContactEdit (fun _ => True) program →
      Exec program m events (.returned report) m' → ContactSession m.workspace events m'.workspace
  | stopped {program : Command α} {m m' : Process} : ContactEdit NewContact.Distinct program →
      Exec program m events outcome m' → ContactSession m.workspace events m'.workspace
  | other : w'.contacts = w.contacts → ContactSession w [] w'

theorem ContactEdit.contactsValid {program : Command α} {outcome : Outcome AppError α}
    {m m' : Process} (hcommand : ContactEdit NewContact.Distinct program)
    (hvalid : ContactsValid m.workspace.contacts) (hexec : Exec program m events outcome m') :
    ContactsValid m'.workspace.contacts := by
  have hkeeps : Program.wp Contacts (fun _ => Contacts) (fun _ => Contacts) program [] m →
      ContactsValid m'.workspace.contacts :=
    fun hwp => Program.session_invariant hexec hvalid hwp
  cases hcommand with
  | create _ _ hdistinct => exact hkeeps (hvalid.contactCreate hdistinct)
  | move => exact hkeeps (contacts_contactMove hvalid)
  | rename => exact hkeeps (contacts_contactRename hvalid)
  | emailAdd => exact hkeeps (contacts_contactEmailAdd hvalid)
  | emailRemove => exact hkeeps (contacts_contactEmailRemove hvalid)
  | delete => exact hkeeps (contacts_contactDelete hvalid)
  | extract => exact hkeeps (contacts_contactExtract hvalid)

theorem ContactEdit.contactsValid_of_returned {program : Command α} {m m' : Process}
    (hcommand : ContactEdit (fun _ => True) program) (hvalid : ContactsValid m.workspace.contacts)
    (hexec : Exec program m events (.returned report) m') : ContactsValid m'.workspace.contacts := by
  cases hcommand with
  | create host params =>
    have hwp : Program.wp (ContactFiles fun _ => True) (fun _ => Contacts)
        (fun _ => ContactFiles fun _ => True) (contactCreate host params) [] m :=
      contacts_contactCreate_returned hvalid
    exact (Program.wp_sound hexec trivial hwp).2
  | move host => exact ContactEdit.contactsValid (.move host ..) hvalid hexec
  | rename host => exact ContactEdit.contactsValid (.rename host ..) hvalid hexec
  | emailAdd host => exact ContactEdit.contactsValid (.emailAdd host ..) hvalid hexec
  | emailRemove host => exact ContactEdit.contactsValid (.emailRemove host ..) hvalid hexec
  | delete host => exact ContactEdit.contactsValid (.delete host ..) hvalid hexec
  | extract host => exact ContactEdit.contactsValid (.extract host ..) hvalid hexec

theorem contactsValid_of_run {w₀ w : Workspace} (hvalid : ContactsValid w₀.contacts)
    (hrun : Run ContactSession w₀ events w) : ContactsValid w.contacts := by
  apply hrun.invariant hvalid
  intro w _ w' _ hvalid hsession
  cases hsession with
  | returned hcommand hexec => exact hcommand.contactsValid_of_returned hvalid hexec
  | stopped hcommand hexec => exact hcommand.contactsValid hvalid hexec
  | other hsame => rwa [hsame]

/-- The contact index of every workspace that contact commands lead to complains of nothing and
finds every address. -/
theorem contactIndexSound_of_run {w₀ w : Workspace} (hempty : w₀.contacts = [])
    (hrun : Run ContactSession w₀ events w) : w.ContactIndexSound := by
  apply (contactsValid_of_run _ hrun).sound
  rw [hempty]
  exact .nil

/-- A host for contacts on one day, with the headers of the messages as sources. -/
def plainContactHost : ContactHost (List String) where
  toHost := plainHost
  localDate := "20240101"
  reasonRequired := false
  defaultGroup := "people"
  defaultBody _ _ _ := .ok ""
  refreshContactViews _ := .ok ()
  fromHeaders headers := .ok headers

def answerEventIds (_ : Unit) : (request : Request) → Except AppError request.Reply × Unit
  | .newEventId => (.ok "event", ())
  | _ => (.error { errorCode := "unreachable", message := "" }, ())

/-- Runs a command in a workspace of its own. -/
def contactRun (program : Command α) (w : Workspace) : Result α × Workspace :=
  let process : Process :=
    { workspace := w
      item := { pushId := "", enqueueSeq := 0, payload := .draft { caseUid := "", draftName := "" }
                createdRfc3339 := "", updatedRfc3339 := "" } }
  let (result, process, _) := program.run answerEventIds process ()
  (result, process.workspace)

theorem contactSession_run {program : Command α} (hcommand : ContactEdit (fun _ => True) program)
    (w : Workspace) (hreturned : (contactRun program w).1.isOk = true) :
    ∃ events, ContactSession w events (contactRun program w).2 := by
  obtain ⟨events, hexec⟩ := Program.run_exec answerEventIds program { workspace := w, item := _ } ()
  cases hresult : (contactRun program w).1 with
  | error error =>
    rw [hresult] at hreturned
    cases hreturned
  | ok report =>
    change (program.run answerEventIds { workspace := w, item := _ } ()).1 = _ at hresult
    rw [hresult] at hexec
    exact ⟨events, .returned hcommand hexec⟩

def noContacts : Workspace where
  config := .default

def createAlice : Command ContactReport :=
  contactCreate plainContactHost { name := "Alice", emails := [" A@example.com", "b@example.com"] }

def extractCarol : Command ExtractReport :=
  contactExtract plainContactHost ["Alice <a@example.com>", "Carol <C@example.com>"] none

def aliceCreated : Workspace := (contactRun createAlice noContacts).2

def carolExtracted : Workspace := (contactRun extractCarol aliceCreated).2

theorem contactIndexSound_carolExtracted :
    carolExtracted.activeContacts.map (·.emails) =
      [["a@example.com", "b@example.com"], ["c@example.com"]] ∧
        carolExtracted.ContactIndexSound := by
  have hcontacts : carolExtracted.activeContacts.map (·.emails) =
      [["a@example.com", "b@example.com"], ["c@example.com"]] := by decide +kernel
  have hcreate : ContactEdit (fun _ => True) createAlice := .create plainContactHost _ trivial
  have hextract : ContactEdit (fun _ => True) extractCarol := .extract plainContactHost _ none
  obtain ⟨_, halice⟩ := contactSession_run hcreate noContacts (by decide +kernel)
  obtain ⟨_, hcarol⟩ := contactSession_run hextract aliceCreated (by decide +kernel)
  have hrun : Run ContactSession noContacts _ carolExtracted := .next (.next .start halice) hcarol
  exact ⟨hcontacts, contactIndexSound_of_run rfl hrun⟩

/-- An address given twice is complained of when the views are refreshed. -/
example : (contactRun (contactCreate plainContactHost
    { name := "Alice", emails := ["a@example.com", "A@example.com"] }) noContacts).1 =
      .error contactIndexInvalid := by
  decide +kernel

end AgentFirstMail
