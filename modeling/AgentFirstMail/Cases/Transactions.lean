import Mathlib.Data.List.TakeWhile
import AgentFirstMail.Cases.ArchiveRecovery

namespace AgentFirstMail
open Effect Command

section Paths
variable {host : Host} {caseUid : String} {case_ : CaseRecord}

theorem pathComponents_cons {path : String} (first rest : List Char) (hne : first ≠ [])
    (hnot : '/' ∉ first) (hpath : path.toList = first ++ '/' :: rest) :
    pathComponents path = String.ofList first ::
      ((rest.splitOn '/').filter fun part => part != [] && part != ['.']).map String.ofList := by
  unfold pathComponents
  rw [hpath, List.splitOn_append_cons_self_of_not_mem hnot]
  dsimp only
  rw [if_pos hne, List.singleton_append]

theorem firstSegment_of_validUid {letter : Char} (hletter : letter ≠ '-') {uid : String}
    (h : validUid letter uid = true) : firstSegment uid = uid := by
  have hall : ∀ c ∈ uid.toList, (c != '-') = true := by
    intro c hmem
    apply bne_iff_ne.mpr
    rintro rfl
    exact not_mem_of_validUid hletter rfl h hmem
  rw [firstSegment, List.takeWhile_eq_self_iff.mpr hall, String.ofList_toList]

theorem pathComponents_archived {caseUid : String} (hvalid : validUid 'c' caseUid = true) :
    pathComponents s!"archived-cases/*/{caseUid}" = ["archived-cases", "*", caseUid] := by
  have hslash : '/' ∉ caseUid.toList := not_mem_of_validUid (by decide) rfl hvalid
  have hkept : (caseUid.toList != [] && caseUid.toList != ['.']) = true := by
    rw [Bool.and_eq_true, bne_iff_ne, bne_iff_ne]
    constructor
    · intro hnil
      rw [validUid, hnil] at hvalid
      cases hvalid
    · intro hdot
      rw [validUid, hdot] at hvalid
      revert hvalid
      decide
  rw [pathComponents_cons "archived-cases".toList ('*' :: '/' :: caseUid.toList)
    (by decide) (by decide) (by simp [toString, String.toList_append])]
  have hsplit : ('*' :: '/' :: caseUid.toList).splitOn '/' = [['*'], caseUid.toList] := by
    change (['*'] ++ '/' :: caseUid.toList).splitOn '/' = _
    rw [List.splitOn_append_cons_self_of_not_mem (by decide), List.splitOn_eq_singleton hslash]
  have hfilter : [['*'], caseUid.toList].filter (fun part => part != [] && part != ['.']) =
      [['*'], caseUid.toList] := by
    rw [List.filter_eq_self, List.forall_mem_cons, List.forall_mem_singleton]
    exact ⟨by decide, hkept⟩
  rw [hsplit, hfilter]
  simp

theorem caseUidOfPath_eq_none {root path first : String} {rest : List String}
    (hpath : pathComponents path = first :: rest) (hne : first ≠ root) :
    caseUidOfPath host root path = none := by
  unfold caseUidOfPath
  rw [hpath]
  split
  · rename_i heq
    cases heq
    exact if_neg fun h => hne h.1
  · rfl

theorem parseCaseRef_of_validUid (hvalid : validUid 'c' caseUid = true)
    (hparsed : parseCaseRef host caseUid = .ok found) : found = caseUid := by
  obtain ⟨uid, huid, hparsed⟩ := Result.bind_ok hparsed
  obtain ⟨_, hparsed⟩ := Result.seq_ok hparsed
  cases hparsed
  obtain ⟨_, huid⟩ := Result.seq_ok huid
  obtain ⟨_, huid⟩ := Result.seq_ok huid
  obtain ⟨_, huid⟩ := Result.seq_ok huid
  cases huid
  exact firstSegment_of_validUid (by decide) hvalid

/-- The transaction of archiving a case can only be taken for that of the same case. -/
theorem repairableCaseArchiveUid_eq (hvalid : validUid 'c' caseUid = true)
    (h : ({ kind := "case_archive", paths := archivePaths caseUid case_ } :
      TransactionRecord).repairableCaseArchiveUid host = some found) : found = caseUid := by
  unfold TransactionRecord.repairableCaseArchiveUid at h
  rw [if_neg (by simp)] at h
  split at h
  · rename_i active archived _ harchived
    split at h
    · rename_i hsame
      cases h
      rw [hsame.1]
      have hfirst : pathComponents s!"cases/{case_.group}/{case_.dirName}" = "cases" ::
          ((case_.group.toList ++ '/' :: case_.dirName.toList).splitOn '/' |>.filter
            fun part => part != [] && part != ['.']).map String.ofList :=
        pathComponents_cons "cases".toList _ (by decide) (by decide)
          (by simp [toString, String.toList_append])
      have hlast : pathComponents ".afmail/push" = [".afmail", "push"] := by decide
      unfold TransactionRecord.caseUidUnder archivePaths at harchived
      dsimp only at harchived
      rw [List.findSome?_cons, caseUidOfPath_eq_none hfirst (by decide)] at harchived
      dsimp only at harchived
      rw [List.findSome?_cons] at harchived
      split at harchived
      · rename_i uid huid
        cases harchived
        unfold caseUidOfPath at huid
        rw [pathComponents_archived hvalid] at huid
        dsimp only at huid
        split at huid
        · cases hparsed : parseCaseRef host caseUid with
          | error error =>
            rw [hparsed] at huid
            cases huid
          | ok parsed =>
            rw [hparsed] at huid
            cases huid
            exact parseCaseRef_of_validUid hvalid hparsed
        · cases huid
      · rw [List.findSome?_cons, caseUidOfPath_eq_none hlast (by decide)] at harchived
        cases harchived
    · cases h
  · cases h

end Paths
end AgentFirstMail
