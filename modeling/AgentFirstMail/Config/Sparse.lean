import AgentFirstMail.Config.Template

namespace AgentFirstMail
open Schema Fields

/-- Drops the group that cases once had. -/
def removeDeprecatedCaseDefaultGroup : Json → Json
  | .object fields =>
    match fields.lookup "case" with
    | some (.object case) =>
      .object (Fields.insert "case" (.object (case.filter (·.1 != "default_group"))) fields)
    | _ => .object fields
  | value => value

section Config
variable (offset : String)

def mergeWithDefaults (overrideValue : Json) : Json :=
  removeDeprecatedCaseDefaultGroup (Json.merge (defaultTemplateValue offset) overrideValue)

/-- The configuration of a file's document, as it is written in full. -/
def loadDocument (raw : Json) : Option Json :=
  (mailConfigSchema offset).read (mergeWithDefaults offset raw)

def sparseValue (config : Json) : Json :=
  (Json.diff (defaultTemplateValue offset) config).getD (.object [])

end Config

/-- What holds of the sparse form of a configuration that is loaded of a document. -/
structure SparseForm (offset : String) (raw config : Json) : Prop where
  restored : mergeWithDefaults offset (sparseValue offset config) = config ↔
    (defaultTemplateValue offset).keeps config = true
  reads : (mailConfigSchema offset).read config = some config
  kept : (mailConfigSchema offset).inObjects raw = true →
    (defaultTemplateValue offset).keeps config = true
  notDefault : ∀ path found, Json.at_ path (sparseValue offset config) = some found →
    Json.at_ path (defaultTemplateValue offset) ≠ some found
  twice : sparseValue offset (sparseValue offset config) = sparseValue offset config
  again : sparseValue offset (mergeWithDefaults offset (sparseValue offset config)) =
    sparseValue offset config

section Deprecated
variable {fields : List (String × Json)} {key : String} {child : Json}

theorem sorted_filter {keep : String × Json → Bool} (h : Sorted fields) :
    Sorted (fields.filter keep) :=
  List.Pairwise.sublist (List.filter_sublist.map _) h

theorem removeDeprecated_object (h : Sorted fields) :
    ∃ kept, removeDeprecatedCaseDefaultGroup (.object fields) = .object kept ∧ Sorted kept ∧
      ∀ key, kept.lookup key = fields.lookup key ∨
        key = "case" ∧ ∃ case, fields.lookup key = some (.object case) ∧
          kept.lookup key = some (.object (case.filter (·.1 != "default_group"))) := by
  rw [removeDeprecatedCaseDefaultGroup]
  split
  · rename_i case hcase
    refine ⟨_, rfl, h.insert, fun key => ?_⟩
    rw [lookup_insert]
    by_cases heq : key = "case"
    · exact .inr ⟨heq, case, heq ▸ hcase, if_pos heq⟩
    · exact .inl (if_neg heq)
  · exact ⟨fields, rfl, h, fun key => .inl rfl⟩

theorem ordered_filter {keep : String × Json → Bool} (h : (Json.object fields).Ordered) :
    (Json.object (fields.filter keep)).Ordered := by
  cases h with
  | leaf hleaf => exact absurd rfl (hleaf fields)
  | object hsorted hchildren =>
    refine .object (sorted_filter hsorted) fun key child hchild => hchildren key child ?_
    exact lookup_of_mem hsorted.nodup (List.mem_filter.mp (mem_of_lookup hchild)).1

theorem ordered_removeDeprecated (h : (Json.object fields).Ordered) :
    (removeDeprecatedCaseDefaultGroup (.object fields)).Ordered := by
  cases h with
  | leaf hleaf => exact absurd rfl (hleaf fields)
  | object hsorted hchildren =>
    obtain ⟨kept, heq, hsorted', hlookup⟩ := removeDeprecated_object hsorted
    rw [heq]
    refine .object hsorted' fun key child hchild => ?_
    obtain hsame | ⟨rfl, case, hfound, hkept⟩ := hlookup key
    · exact hchildren key child (hsame ▸ hchild)
    · cases hkept.symm.trans hchild
      exact ordered_filter (hchildren _ _ hfound)

theorem keeps_removeDeprecated {defaults : List (String × Json)} (hsorted : Sorted defaults)
    (hcase : defaults.lookup "case" = some (.object [])) (hsorted' : Sorted fields)
    (h : (Json.object defaults).keeps (.object fields) = true) :
    (Json.object defaults).keeps (removeDeprecatedCaseDefaultGroup (.object fields)) = true := by
  obtain ⟨kept, heq, _, hlookup⟩ := removeDeprecated_object hsorted'
  rw [heq]
  rw [Json.keeps_objects hsorted] at h ⊢
  intro key default hdefault
  obtain ⟨child, hchild, hkeeps⟩ := h key default hdefault
  obtain hsame | ⟨rfl, case, _, hkept⟩ := hlookup key
  · exact ⟨child, hsame.trans hchild, hkeeps⟩
  · cases hcase.symm.trans hdefault
    exact ⟨_, hkept, rfl⟩

theorem removeDeprecated_of_empty (h : Sorted fields)
    (hcase : fields.lookup "case" = some (.object [])) :
    removeDeprecatedCaseDefaultGroup (.object fields) = .object fields := by
  obtain ⟨kept, heq, hsorted, hlookup⟩ := removeDeprecated_object h
  rw [heq]
  refine congrArg Json.object (hsorted.ext h fun key => ?_)
  obtain hsame | ⟨rfl, case, hfound, hkept⟩ := hlookup key
  · exact hsame
  · cases hcase.symm.trans hfound
    rw [hkept, hcase]
    rfl

end Deprecated

section Loading
variable {offset : String} {raw config value : Json} {given : List (String × Json)}

theorem case_mem_mailConfigFields (offset : String) :
    defaulted "case" (.object []) (.record []) ∈ mailConfigFields offset := by
  rw [mailConfigFields, mailConfigTable, List.map_append, List.map_cons]
  refine List.mem_append_right _ (List.mem_cons_of_mem _ ?_)
  simp [sectionTable]

theorem read_mailConfig (h : (mailConfigSchema offset).read value = some config) :
    ∃ fields, config = .object fields ∧ Sorted fields ∧
      fields.lookup "case" = some (.object []) := by
  obtain ⟨entries, hentries, rfl⟩ := read_record (sound_mailConfigSchema offset) h
  refine ⟨_, rfl, sorted_ofList _, ?_⟩
  obtain ⟨entry, hentry, hspec, value, hread⟩ :=
    Lists.exists_of_forall₂ hentries.flip (case_mem_mailConfigFields offset)
  obtain ⟨nothing, hnothing, hempty⟩ := read_record rfl hread
  cases hnothing
  have hnames := names_of_readAs hentries ▸ names_mailConfigFields offset
  have hlookup := lookup_written hnames hentry
  rw [hspec, FieldSpec.skips, hempty] at hlookup
  exact hlookup

theorem ordered_defaultTemplateValue (offset : String) : (defaultTemplateValue offset).Ordered :=
  ordered_read (sound_mailConfigSchema offset) (read_defaultTemplateValue offset)

theorem mergeWithDefaults_sparseValue (h : config.Ordered)
    (hread : (mailConfigSchema offset).read config = some config) :
    mergeWithDefaults offset (sparseValue offset config) =
      Json.restore (defaultTemplateValue offset) config := by
  obtain ⟨defaults, htemplate, hsorted, hcase⟩ :=
    read_mailConfig (read_defaultTemplateValue offset)
  obtain ⟨fields, rfl, hsorted', hcase'⟩ := read_mailConfig hread
  have hmerged : Json.merge (defaultTemplateValue offset) (sparseValue offset (.object fields)) =
      Json.restore (defaultTemplateValue offset) (.object fields) := by
    rw [sparseValue, Json.restore]
    cases Json.diff (defaultTemplateValue offset) (.object fields) with
    | none =>
      rw [htemplate]
      rfl
    | some part => rfl
  rw [mergeWithDefaults, hmerged, htemplate, Json.restore_objects hsorted']
  refine removeDeprecated_of_empty (Json.sorted_mergeFields hsorted) ?_
  rw [Json.lookup_restored _ hsorted', hcase, hcase']
  rfl

theorem inObjects_removeDeprecated (hsorted : Sorted given)
    (h : (mailConfigSchema offset).inObjects (.object given) = true) :
    (mailConfigSchema offset).inObjects (removeDeprecatedCaseDefaultGroup (.object given)) = true := by
  obtain ⟨kept, heq, _, hlookup⟩ := removeDeprecated_object hsorted
  rw [heq]
  have hfields := inObjectsFields_iff.mp h
  refine inObjectsFields_iff.mpr fun field hfield child hchild => ?_
  obtain hsame | ⟨hname, case, _, hkept⟩ := hlookup field.1.name
  · exact hfields field hfield child (hsame ▸ hchild)
  · cases hkept.symm.trans hchild
    cases List.inj_on_of_nodup_map (names_mailConfigFields offset) hfield
      (case_mem_mailConfigFields offset) hname
    rfl

theorem keeps_loadDocument (hraw : (Json.object given).Ordered)
    (hobjects : (mailConfigSchema offset).inObjects (.object given) = true)
    (h : loadDocument offset (.object given) = some config) :
    (defaultTemplateValue offset).keeps config = true := by
  have hsound := sound_mailConfigSchema offset
  have hdefault := ordered_defaultTemplateValue offset
  have hread := read_defaultTemplateValue offset
  obtain ⟨defaults, htemplate, hsorted, hcase⟩ := read_mailConfig hread
  rw [loadDocument, mergeWithDefaults] at h
  rw [htemplate] at h hdefault hread ⊢
  have hmerged : Sorted (Json.mergeFields defaults given) := Json.sorted_mergeFields hsorted
  have hkeeps := keeps_removeDeprecated hsorted hcase hmerged (hdefault.keeps_merge hraw)
  have hwritten := inObjects_merge hdefault hraw (inObjects_read hsound hread) hobjects
  exact keeps_read hsound (plain_mailConfigSchema offset) hread
    (ordered_removeDeprecated (hdefault.merge hraw)) hkeeps
    (inObjects_removeDeprecated hmerged hwritten) h

end Loading

theorem diff_empty (offset : String) :
    Json.diff (defaultTemplateValue offset) (.object []) = none ∧
      defaultTemplateValue offset ≠ .object [] := by
  obtain ⟨defaults, htemplate, _, hcase⟩ := read_mailConfig (read_defaultTemplateValue offset)
  have hne : Json.object [] ≠ .object defaults := by
    intro heq
    cases heq
    cases hcase
  rw [htemplate, Json.diff_objects hne]
  exact ⟨rfl, hne.symm⟩

theorem sparseForm {offset : String} {given : List (String × Json)} {config : Json}
    (hraw : (Json.object given).Ordered) (h : loadDocument offset (.object given) = some config) :
    SparseForm offset (.object given) config := by
  have hsound := sound_mailConfigSchema offset
  have hordered := ordered_read hsound h
  have hreads := read_read hsound h
  have hdefault := ordered_defaultTemplateValue offset
  have hmerged := mergeWithDefaults_sparseValue hordered hreads
  refine ⟨?_, hreads, fun hobjects => keeps_loadDocument hraw hobjects h, ?_, ?_, ?_⟩
  · rw [hmerged, Json.restore_eq_iff hordered hdefault]
  · intro path found hfound
    rw [sparseValue] at hfound
    cases hdiff : Json.diff (defaultTemplateValue offset) config with
    | none =>
      rw [hdiff] at hfound
      cases path with
      | nil =>
        cases hfound
        exact fun heq => (diff_empty offset).2 (Option.some.inj heq)
      | cons key path => cases hfound
    | some part =>
      rw [hdiff] at hfound
      exact Json.diff_at hordered hdiff hfound
  · rw [sparseValue, sparseValue]
    cases hdiff : Json.diff (defaultTemplateValue offset) config with
    | none => exact congrArg (Option.getD · (.object [])) (diff_empty offset).1
    | some part => exact congrArg (Option.getD · (.object [])) (Json.diff_diff hordered hdiff)
  · rw [hmerged, sparseValue, Json.diff_restore hordered hdefault, sparseValue]

def imapHostFields : List (String × Json) :=
  [("imap", .object [("host", .string "imap.example.com")])]

theorem sparseForm_imapHost : ∃ config, loadDocument "UTC" (.object imapHostFields) = some config ∧
    sparseValue "UTC" config = .object imapHostFields ∧
    SparseForm "UTC" (.object imapHostFields) config := by
  have hordered : (Json.object imapHostFields).Ordered := by
    have hsorted (field : String × Json) : Sorted [field] := List.pairwise_singleton _ _
    refine .object (hsorted _) fun key child hchild => ?_
    obtain ⟨rfl, rfl⟩ := Prod.mk.inj (List.mem_singleton.mp (mem_of_lookup hchild))
    refine .object (hsorted _) fun key child hchild => ?_
    obtain ⟨rfl, rfl⟩ := Prod.mk.inj (List.mem_singleton.mp (mem_of_lookup hchild))
    exact .leaf fun _ heq => nomatch heq
  have hloaded : (loadDocument "UTC" (.object imapHostFields)).any
      (sparseValue "UTC" · == .object imapHostFields) = true := by decide +kernel
  obtain ⟨config, hconfig, hsparse⟩ := Option.any_eq_true _ _ |>.mp hloaded
  exact ⟨config, hconfig, beq_iff_eq.mp hsparse, sparseForm hordered hconfig⟩

/-- A section that is written as the array of its fields has no default entries, and they are not
left out for good. -/
theorem sparseValue_addsEntries : ∃ config,
    loadDocument "UTC" (.object [("actions", .object [("message", .object [
      ("notification", .array [.object []])])])]) = some config ∧
    mergeWithDefaults "UTC" (sparseValue "UTC" config) ≠ config := by
  have hloaded : (loadDocument "UTC" (.object [("actions", .object [("message", .object [
      ("notification", .array [.object []])])])])).any
        (fun config => mergeWithDefaults "UTC" (sparseValue "UTC" config) != config) = true := by
    decide +kernel
  obtain ⟨config, hconfig, hne⟩ := Option.any_eq_true _ _ |>.mp hloaded
  exact ⟨config, hconfig, bne_iff_ne.mp hne⟩

end AgentFirstMail
