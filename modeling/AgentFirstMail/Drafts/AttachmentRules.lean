import AgentFirstMail.Drafts.Attachments

namespace AgentFirstMail
open Effect Local
variable {host : AttachHost} {before middle after directory : CaseFiles} {draftName : String}
  {listed : List String} {attachment : String} {text body edited : List Char} {content bytes : Bytes}
  {header : DraftHeader} {file : AttachmentFile}

section Steps

/-- Where a file is placed for a draft, and the directory after it. -/
inductive Placed (host : AttachHost) (directory : CaseFiles) (listed : List String) :
    AttachmentFile → String → CaseFiles → Prop
  | inside {relative : String} (hfile : directory.isFile relative = true) :
      Placed host directory listed (.inside relative) (pathToString relative) directory
  | reused {fileName : Option String} {content : Bytes}
      (hlisted : candidateAttachment host fileName ∈ listed)
      (hfile : directory.isFile (candidateAttachment host fileName) = true) :
      Placed host directory listed (.outside fileName content) (candidateAttachment host fileName)
        directory
  | copied {fileName : Option String} {content : Bytes}
      (hfree : ¬ (candidateAttachment host fileName ∈ listed ∧
        directory.isFile (candidateAttachment host fileName) = true)) :
      Placed host directory listed (.outside fileName content) (copyTarget host directory fileName)
        (directory.put (copyTarget host directory fileName) content)

/-- An attachment is in the list of a draft, from before or in a rewritten draft. -/
inductive Listed (host : AttachHost) (draftName : String) (text : List Char) (header : DraftHeader)
    (body : List Char) (attachment : String) (directory : CaseFiles) : CaseFiles → Prop
  | already (hlisted : attachment ∈ header.attachments) :
      Listed host draftName text header body attachment directory directory
  | added {edited : List Char} (hnew : attachment ∉ header.attachments)
      (hedit : editFrontmatter host.format text (header.attach attachment) body = .ok edited) :
      Listed host draftName text header body attachment directory
        (directory.put (draftPath draftName) (textBytes edited))

theorem copyAttachment_returns {fileName : Option String} {place : String × Bool}
    (h : Returns (copyAttachment host directory listed fileName content) directory place after) :
    Placed host directory listed (.outside fileName content) place.1 after := by
  rw [copyAttachment] at h
  dsimp only at h
  split at h
  · rename_i hpresent
    rw [Bool.and_eq_true, List.contains_iff_mem] at hpresent
    obtain ⟨rfl, rfl⟩ := Returns.ret_iff.mp h
    exact .reused hpresent.1 hpresent.2
  · rename_i hfree
    rw [Bool.and_eq_true, List.contains_iff_mem] at hfree
    obtain ⟨_, _, h⟩ := Returns.ofExcept_bind_iff.mp h
    obtain ⟨_, middle, hwrite, h⟩ := Returns.bind_iff.mp h
    obtain ⟨rfl, rfl⟩ := Returns.ret_iff.mp h
    rw [Returns.write_iff.mp hwrite]
    exact .copied hfree

theorem placeAttachment_returns {place : String × String × Bool}
    (h : Returns (placeAttachment host directory listed file) directory place after) :
    Placed host directory listed file place.1 after := by
  cases file with
  | inside relative =>
    obtain ⟨_, hfile, h⟩ := Returns.ofExcept_bind_iff.mp h
    obtain ⟨rfl, rfl⟩ := Returns.ret_iff.mp h
    exact .inside (ensure_eq_ok_iff.mp hfile)
  | outside fileName content =>
    obtain ⟨_, _, hcopy, h⟩ := Returns.bind_iff.mp h
    obtain ⟨rfl, rfl⟩ := Returns.ret_iff.mp h
    exact copyAttachment_returns hcopy

theorem listAttachment_returns {done : Unit}
    (h : Returns (listAttachment host draftName text header body attachment) directory done after) :
    Listed host draftName text header body attachment directory after := by
  rw [listAttachment] at h
  split at h
  · rename_i hlisted
    obtain ⟨_, rfl⟩ := Returns.ret_iff.mp h
    exact .already (List.contains_iff_mem.mp hlisted)
  · rename_i hnew
    obtain ⟨edited, hedit, h⟩ := Returns.ofExcept_bind_iff.mp h
    rw [Returns.write_iff.mp h]
    exact .added (fun hmem => hnew (List.contains_iff_mem.mpr hmem)) hedit

end Steps

section Drafts

/-- The draft that a command finds, as text and as it is read. -/
structure OpenedDraft where
  text : List Char
  header : DraftHeader
  body : List Char
deriving DecidableEq

/-- How a draft in a case is read. -/
def openDraft (host : AttachHost) (directory : CaseFiles) (draftName : String) :
    Result OpenedDraft := do
  let some bytes := directory.content (draftPath draftName) | .error (draftMissing draftName)
  let text ← readToString "read draft" bytes
  let (header, body) ← readDoc host.format text
  return { text, header, body }

theorem openDraft_eq_ok_iff {draft : OpenedDraft} :
    openDraft host directory draftName = .ok draft ↔
      ∃ bytes, directory.content (draftPath draftName) = some bytes ∧
        readToString "read draft" bytes = .ok draft.text ∧
        readDoc host.format draft.text = .ok (draft.header, draft.body) := by
  rw [openDraft]
  cases hcontent : directory.content (draftPath draftName) with
  | none => simp
  | some bytes =>
    constructor
    · intro h
      obtain ⟨text, htext, h⟩ := Result.bind_ok h
      obtain ⟨_, hread, h⟩ := Result.bind_ok h
      cases h
      exact ⟨bytes, rfl, htext, hread⟩
    · intro ⟨_, heq, htext, hread⟩
      cases heq
      dsimp only
      exact Result.bind_eq_ok_iff.mpr ⟨_, htext, Result.bind_eq_ok_iff.mpr ⟨_, hread, rfl⟩⟩

theorem attachFileToDraft_returns {source : Result AttachmentFile} {result : AttachedFile}
    (h : Returns (attachFileToDraft host draftName source) before result after) :
    ∃ file draft middle, source = .ok file ∧ openDraft host before draftName = .ok draft ∧
      Placed host before draft.header.attachments file result.attachment middle ∧
      Listed host draftName draft.text draft.header draft.body result.attachment middle after := by
  obtain ⟨_, _, h⟩ := Returns.ofExcept_bind_iff.mp h
  have h := Returns.read_iff.mp h
  cases hcontent : before.content (draftPath draftName) with
  | none =>
    rw [hcontent] at h
    exact (Returns.not_fail h).elim
  | some bytes =>
    rw [hcontent] at h
    obtain ⟨file, hsource, h⟩ := Returns.ofExcept_bind_iff.mp h
    obtain ⟨text, htext, h⟩ := Returns.ofExcept_bind_iff.mp h
    obtain ⟨⟨header, body⟩, hread, h⟩ := Returns.ofExcept_bind_iff.mp h
    obtain ⟨_, middle, hplace, h⟩ := Returns.bind_iff.mp h
    obtain ⟨_, last, hlist, h⟩ := Returns.bind_iff.mp h
    have h := Returns.read_iff.mp h
    obtain ⟨rfl, rfl⟩ := Returns.ret_iff.mp h
    have hopen : openDraft host before draftName = .ok ⟨text, header, body⟩ :=
      openDraft_eq_ok_iff.mpr ⟨bytes, hcontent, htext, hread⟩
    exact ⟨file, _, middle, hsource, hopen, placeAttachment_returns hplace,
      listAttachment_returns hlist⟩

end Drafts

section Contents

theorem copyTarget_ne_draftPath (directory : CaseFiles) (fileName : Option String)
    (draftName : String) : copyTarget host directory fileName ≠ draftPath draftName := by
  intro heq
  rw [copyTarget, uniqueDestPath, draftPath] at heq
  have hchars := congrArg (fun path : String => path.toList.head?) heq
  simp at hchars

theorem openDraft_congr (h : after.content (draftPath draftName) =
    before.content (draftPath draftName)) :
    openDraft host after draftName = openDraft host before draftName := by
  rw [openDraft, openDraft, h]

theorem openDraft_added {draft : OpenedDraft} (middle : CaseFiles) (hreads : host.Rereads)
    (hopen : openDraft host before draftName = .ok draft)
    (hedit : editFrontmatter host.format draft.text (draft.header.attach attachment) draft.body =
      .ok edited) :
    (∃ kept, openDraft host (middle.put (draftPath draftName) (textBytes edited)) draftName =
      .ok ⟨edited, draft.header.attach attachment, kept⟩) ∧
    before.content (draftPath draftName) ≠ some (textBytes edited) := by
  obtain ⟨bytes, hcontent, htext, hread⟩ := openDraft_eq_ok_iff.mp hopen
  obtain ⟨kept, hreread⟩ := hreads _ _ _ _ hedit
  constructor
  · refine ⟨kept, openDraft_eq_ok_iff.mpr ⟨_, CaseFiles.content_put_self, ?_, hreread⟩⟩
    exact readToString_textBytes _ _
  · intro hsame
    rw [hcontent, Option.some.injEq] at hsame
    rw [hsame, readToString_textBytes, Except.ok.injEq] at htext
    rw [htext, hread, Except.ok.injEq, Prod.mk.injEq] at hreread
    have hlength := congrArg (fun header : DraftHeader => header.attachments.length) hreread.1
    simp [DraftHeader.attach] at hlength

end Contents

section Attachments

/-- The attachments that a draft lists. -/
def attachmentsOf (host : AttachHost) (directory : CaseFiles) (draftName : String) : List String :=
  match openDraft host directory draftName with
  | .ok draft => draft.header.attachments
  | .error _ => []

/-- The content that a command is given. -/
def AttachmentFile.given (directory : CaseFiles) : AttachmentFile → Option Bytes
  | .inside relative => directory.content relative
  | .outside _ content => some content

/-- A draft lists what it was given, and all it listed is as it was. -/
structure Attaches (host : AttachHost) (before after : CaseFiles) (draftName : String)
    (file : AttachmentFile) : Prop where
  attached : ∃ path ∈ attachmentsOf host after draftName,
    after.isFile path = true ∧ after.content path = file.given before
  kept : ∀ path ∈ attachmentsOf host before draftName, path ∈ attachmentsOf host after draftName ∧
    (before.isFile path = true → after.content path = before.content path)

/-- When a file can be listed in a draft that has to be written again for it. -/
def Rewritable (host : AttachHost) (before : CaseFiles) (draftName : String) (draft : OpenedDraft)
    (attachment : String) (given : Option Bytes) : Prop :=
  draftPath draftName ∉ draft.header.attachments ∧
    ((∃ path ∈ draft.header.attachments ++ [attachment], path ≠ draftPath draftName ∧
        before.content path = given) ∨
      attachment = draftPath draftName ∧ ∃ edited,
        editFrontmatter host.format draft.text (draft.header.attach attachment) draft.body =
          .ok edited ∧ given = some (textBytes edited))

/-- When a draft attaches exactly what it is given: a file in the case is at the path that it is
listed under, a file from elsewhere is not taken for one of its name with another content, and the
draft is not its own attachment. -/
def AttachesExactly (host : AttachHost) (before : CaseFiles) (draftName : String)
    (draft : OpenedDraft) : AttachmentFile → Prop
  | .inside relative =>
    if pathToString relative ∈ draft.header.attachments then
      ∃ path ∈ draft.header.attachments, before.content path = before.content relative
    else Rewritable host before draftName draft (pathToString relative) (before.content relative)
  | .outside fileName content =>
    if candidateAttachment host fileName ∈ draft.header.attachments ∧
        before.isFile (candidateAttachment host fileName) = true then
      ∃ path ∈ draft.header.attachments, before.content path = some content
    else if copyTarget host before fileName ∈ draft.header.attachments then
      ∀ bytes, before.content (copyTarget host before fileName) = some bytes → bytes = content
    else draftPath draftName ∉ draft.header.attachments

end Attachments

section Exactness
variable {draft : OpenedDraft} {path : String}

theorem attachmentsOf_eq (h : openDraft host directory draftName = .ok draft) :
    attachmentsOf host directory draftName = draft.header.attachments := by
  rw [attachmentsOf, h]

theorem CaseFiles.isFile_iff : directory.isFile path = true ↔
    ∃ bytes, directory.content path = some bytes := Option.isSome_iff_exists

theorem attaches_already (hopen : openDraft host before draftName = .ok draft)
    (hdraft : after.content (draftPath draftName) = before.content (draftPath draftName))
    (hgiven : ∃ content, file.given before = some content) :
    Attaches host before after draftName file ↔
      (∃ path ∈ draft.header.attachments, after.content path = file.given before) ∧
        ∀ path ∈ draft.header.attachments, before.isFile path = true →
          after.content path = before.content path := by
  have hbefore := attachmentsOf_eq hopen
  have hafter : attachmentsOf host after draftName = draft.header.attachments :=
    attachmentsOf_eq ((openDraft_congr hdraft).trans hopen)
  constructor
  · intro ⟨⟨path, hpath, _, hcontent⟩, hkept⟩
    rw [hafter] at hpath
    rw [hbefore] at hkept
    exact ⟨⟨path, hpath, hcontent⟩, fun path hpath => (hkept path hpath).2⟩
  · intro ⟨⟨path, hpath, hcontent⟩, hkept⟩
    obtain ⟨content, hsome⟩ := hgiven
    refine ⟨⟨path, by rwa [hafter], ?_, hcontent⟩, fun path hpath => ?_⟩
    · exact CaseFiles.isFile_iff.mpr ⟨content, hcontent.trans hsome⟩
    · rw [hbefore] at hpath
      exact ⟨by rwa [hafter], hkept path hpath⟩

/-- With a write to the draft, the draft has to be none of its attachments, except for a file that
is that draft as it is written. -/
theorem attaches_added (hreads : host.Rereads) (hopen : openDraft host before draftName = .ok draft)
    (hedit : editFrontmatter host.format draft.text (draft.header.attach attachment) draft.body =
      .ok edited)
    (hmiddle : ∀ path ∈ draft.header.attachments, middle.content path = before.content path)
    (hgiven : ∃ content, file.given before = some content) :
    Attaches host before (middle.put (draftPath draftName) (textBytes edited)) draftName file ↔
      draftPath draftName ∉ draft.header.attachments ∧
        ((∃ path ∈ draft.header.attachments ++ [attachment], path ≠ draftPath draftName ∧
            middle.content path = file.given before) ∨
          attachment = draftPath draftName ∧ file.given before = some (textBytes edited)) := by
  obtain ⟨⟨kept, hreopen⟩, hchanged⟩ := openDraft_added middle hreads hopen hedit
  have hbefore := attachmentsOf_eq hopen
  have hafter : attachmentsOf host (middle.put (draftPath draftName) (textBytes edited)) draftName =
      draft.header.attachments ++ [attachment] := attachmentsOf_eq hreopen
  have hisFile : before.isFile (draftPath draftName) = true := by
    obtain ⟨bytes, hcontent, _⟩ := openDraft_eq_ok_iff.mp hopen
    exact CaseFiles.isFile_iff.mpr ⟨bytes, hcontent⟩
  constructor
  · intro ⟨⟨path, hpath, _, hcontent⟩, hkept⟩
    rw [hafter] at hpath
    rw [hbefore] at hkept
    have hdraft : draftPath draftName ∉ draft.header.attachments := by
      intro hmem
      have hsame := (hkept _ hmem).2 hisFile
      rw [CaseFiles.content_put_self] at hsame
      exact hchanged hsame.symm
    refine ⟨hdraft, ?_⟩
    by_cases heq : path = draftPath draftName
    · rw [heq, CaseFiles.content_put_self] at hcontent
      rw [heq] at hpath
      obtain hmem | hself := List.mem_append.mp hpath
      · exact (hdraft hmem).elim
      · exact .inr ⟨(List.mem_singleton.mp hself).symm, hcontent.symm⟩
    · rw [CaseFiles.content_put_ne heq] at hcontent
      exact .inl ⟨path, hpath, heq, hcontent⟩
  · intro ⟨hdraft, hfound⟩
    obtain ⟨content, hsome⟩ := hgiven
    constructor
    · obtain ⟨path, hpath, hne, hcontent⟩ | ⟨rfl, hself⟩ := hfound
      · have hput : (middle.put (draftPath draftName) (textBytes edited)).content path =
            file.given before := (CaseFiles.content_put_ne hne).trans hcontent
        refine ⟨path, by rwa [hafter], ?_, hput⟩
        exact CaseFiles.isFile_iff.mpr ⟨content, hput.trans hsome⟩
      · refine ⟨draftPath draftName, by simp [hafter], ?_, ?_⟩
        · exact CaseFiles.isFile_iff.mpr ⟨_, CaseFiles.content_put_self⟩
        · rw [CaseFiles.content_put_self, hself]
    · intro path hpath
      rw [hbefore] at hpath
      have hne : path ≠ draftPath draftName := fun heq => hdraft (heq ▸ hpath)
      refine ⟨by rw [hafter]; exact List.mem_append_left _ hpath, fun _ => ?_⟩
      rw [CaseFiles.content_put_ne hne, hmiddle path hpath]

theorem attaches_inside {relative : String} (hreads : host.Rereads)
    (hopen : openDraft host before draftName = .ok draft)
    (hfile : before.isFile relative = true)
    (hlist : Listed host draftName draft.text draft.header draft.body (pathToString relative)
      before after) :
    Attaches host before after draftName (.inside relative) ↔
      AttachesExactly host before draftName draft (.inside relative) := by
  have hgiven : ∃ content, AttachmentFile.given before (.inside relative) = some content :=
    CaseFiles.isFile_iff.mp hfile
  rw [AttachesExactly]
  cases hlist with
  | already hlisted =>
    rw [if_pos hlisted]
    refine (attaches_already hopen rfl hgiven).trans ⟨And.left, fun hfound => ⟨hfound, ?_⟩⟩
    exact fun _ _ _ => rfl
  | added hnew hedit =>
    rw [if_neg hnew]
    refine (attaches_added hreads hopen hedit (fun _ _ => rfl) hgiven).trans ?_
    refine and_congr_right fun _ => or_congr_right (and_congr_right fun heq => ?_)
    constructor
    · exact fun hself => ⟨_, hedit, hself⟩
    · intro ⟨other, hother, hself⟩
      rw [hother, Except.ok.injEq] at hedit
      rwa [← hedit]

theorem attaches_reused {fileName : Option String}
    (hopen : openDraft host before draftName = .ok draft)
    (hlisted : candidateAttachment host fileName ∈ draft.header.attachments)
    (hfile : before.isFile (candidateAttachment host fileName) = true)
    (hlist : Listed host draftName draft.text draft.header draft.body
      (candidateAttachment host fileName) before after) :
    Attaches host before after draftName (.outside fileName content) ↔
      AttachesExactly host before draftName draft (.outside fileName content) := by
  rw [AttachesExactly, if_pos ⟨hlisted, hfile⟩]
  cases hlist with
  | already _ =>
    refine (attaches_already hopen rfl ⟨content, rfl⟩).trans ⟨And.left, fun hfound => ⟨hfound, ?_⟩⟩
    exact fun _ _ _ => rfl
  | added hnew _ => exact (hnew hlisted).elim

theorem attaches_copied {fileName : Option String} (hreads : host.Rereads)
    (hopen : openDraft host before draftName = .ok draft)
    (hfree : ¬ (candidateAttachment host fileName ∈ draft.header.attachments ∧
      before.isFile (candidateAttachment host fileName) = true))
    (hlist : Listed host draftName draft.text draft.header draft.body
      (copyTarget host before fileName) (before.put (copyTarget host before fileName) content)
      after) :
    Attaches host before after draftName (.outside fileName content) ↔
      AttachesExactly host before draftName draft (.outside fileName content) := by
  have hdraft : (before.put (copyTarget host before fileName) content).content
      (draftPath draftName) = before.content (draftPath draftName) :=
    CaseFiles.content_put_ne (Ne.symm (copyTarget_ne_draftPath _ _ _))
  rw [AttachesExactly, if_neg hfree]
  cases hlist with
  | already hlisted =>
    rw [if_pos hlisted]
    refine (attaches_already hopen hdraft ⟨content, rfl⟩).trans ?_
    constructor
    · intro ⟨_, hkept⟩ bytes hbytes
      have hsame := hkept _ hlisted (CaseFiles.isFile_iff.mpr ⟨bytes, hbytes⟩)
      rw [CaseFiles.content_put_self, hbytes, Option.some.injEq] at hsame
      exact hsame.symm
    · intro hsame
      refine ⟨⟨_, hlisted, CaseFiles.content_put_self⟩, fun path hpath hisFile => ?_⟩
      by_cases heq : path = copyTarget host before fileName
      · obtain ⟨bytes, hbytes⟩ := CaseFiles.isFile_iff.mp hisFile
        rw [heq] at hbytes ⊢
        rw [CaseFiles.content_put_self, hbytes, hsame bytes hbytes]
      · exact CaseFiles.content_put_ne heq
  | added hnew hedit =>
    rw [if_neg hnew]
    have hmiddle (path : String) (hpath : path ∈ draft.header.attachments) :
        (before.put (copyTarget host before fileName) content).content path =
          before.content path :=
      CaseFiles.content_put_ne fun heq => hnew (heq ▸ hpath)
    refine (attaches_added hreads hopen hedit hmiddle ⟨content, rfl⟩).trans
      ⟨And.left, fun hother => ⟨hother, .inl ⟨copyTarget host before fileName, by simp, ?_, ?_⟩⟩⟩
    · exact copyTarget_ne_draftPath _ _ _
    · exact CaseFiles.content_put_self

theorem attaches_iff {source : Result AttachmentFile} {result : AttachedFile}
    (hreads : host.Rereads)
    (h : Returns (attachFileToDraft host draftName source) before result after) :
    ∃ file draft, source = .ok file ∧ openDraft host before draftName = .ok draft ∧
      (Attaches host before after draftName file ↔
        AttachesExactly host before draftName draft file) := by
  obtain ⟨file, draft, middle, hsource, hopen, hplace, hlist⟩ := attachFileToDraft_returns h
  refine ⟨file, draft, hsource, hopen, ?_⟩
  generalize result.attachment = attachment at hplace hlist
  cases hplace with
  | inside hfile => exact attaches_inside hreads hopen hfile hlist
  | reused hlisted hfile => exact attaches_reused hopen hlisted hfile hlist
  | copied hfree => exact attaches_copied hreads hopen hfree hlist

end Exactness

section Offer

def offerHeader : DraftHeader := { caseUid := "c1", attachments := ["files/price.txt"] }

def offerText (list : String) : List Char :=
  ("---\nattachments:\n" ++ list ++ "---\nHello\n").toList

/-- Reads and writes the front matter of one draft, to which one file is added. -/
def offerFormat : MarkdownFormat DraftHeader where
  fromStr yaml :=
    if yaml = "attachments:\n- files/price.txt\n".toList then .ok offerHeader
    else if yaml = "attachments:\n- files/price.txt\n- files/terms.txt\n".toList then
      .ok (offerHeader.attach "files/terms.txt")
    else .error "not an offer"
  yamlToString _ := .error "not written anew"
  editDocument source header :=
    if source = offerText "- files/price.txt\n" ∧ header = offerHeader.attach "files/terms.txt" then
      .ok (some (offerText "- files/price.txt\n- files/terms.txt\n"))
    else .error (internalError "not an offer")

def offerHost : AttachHost where
  now := "2026-01-01T00:00:00Z"
  validPathSegment _ := true
  sanitize := id
  format := offerFormat

theorem offerHost_rereads : offerHost.Rereads := by
  intro source header body edited h
  obtain ⟨answer, hanswer, h⟩ := Result.bind_ok h
  change (if _ then _ else _) = _ at hanswer
  split at hanswer
  · rename_i hknown
    obtain ⟨rfl, rfl⟩ := hknown
    cases hanswer
    have hedited : edited = offerText "- files/price.txt\n- files/terms.txt\n" := by
      dsimp only at h
      split at h
      · split at h
        · cases h
          rfl
        · cases h
      · cases h
    exact ⟨"Hello\n".toList, by rw [hedited]; decide +kernel⟩
  · cases hanswer

def offerBytes (text : String) : Bytes := textBytes text.toList

/-- A draft with one attachment. -/
def offerCase : CaseFiles where
  files := .ofList [("files/price.txt", offerBytes "10"),
    ("drafts/offer.md", textBytes (offerText "- files/price.txt\n"))]

def offerDraft : OpenedDraft where
  text := offerText "- files/price.txt\n"
  header := offerHeader
  body := "Hello\n".toList

/-- The same after another file was attached. -/
def offerCaseWithTerms : CaseFiles :=
  (offerCase.put "files/terms.txt" (offerBytes "net")).put "drafts/offer.md"
    (textBytes (offerText "- files/price.txt\n- files/terms.txt\n"))

theorem attachFileToDraft_terms : Returns
    (attachFileToDraft offerHost "offer.md" (.ok (.outside (some "terms.txt") (offerBytes "net"))))
    offerCase ⟨"files/terms.txt", true, false, 3⟩ offerCaseWithTerms := by
  decide +kernel

theorem openDraft_offer : openDraft offerHost offerCase "offer.md" = .ok offerDraft := by
  decide +kernel

theorem attaches_terms : Attaches offerHost offerCase offerCaseWithTerms "offer.md"
    (.outside (some "terms.txt") (offerBytes "net")) := by
  obtain ⟨file, draft, hsource, hopen, hiff⟩ :=
    attaches_iff offerHost_rereads attachFileToDraft_terms
  rw [openDraft_offer] at hopen
  cases hsource
  cases hopen
  refine hiff.mpr ?_
  rw [AttachesExactly, if_neg (by decide +kernel), if_neg (by decide +kernel)]
  decide +kernel

/-- A new price is not attached: the file of its name is taken for it. -/
theorem attachFileToDraft_leaves_price :
    Returns (attachFileToDraft offerHost "offer.md"
      (.ok (.outside (some "price.txt") (offerBytes "12")))) offerCase
      ⟨"files/price.txt", false, true, 2⟩ offerCase ∧
    ¬ Attaches offerHost offerCase offerCase "offer.md"
      (.outside (some "price.txt") (offerBytes "12")) := by
  refine ⟨by decide +kernel, fun h => ?_⟩
  obtain ⟨path, hpath, _, hcontent⟩ := h.attached
  rw [attachmentsOf_eq openDraft_offer] at hpath
  rw [List.mem_singleton.mp hpath] at hcontent
  exact absurd hcontent (by decide +kernel)

end Offer
end AgentFirstMail
