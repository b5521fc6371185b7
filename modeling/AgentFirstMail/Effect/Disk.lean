import Mathlib.Logic.Function.Basic
import Mathlib.Tactic.Common

/-! A disk whose files may stand under more than one name. -/

namespace Effect

structure FilePath where
  directory : Option String
  name : String
deriving DecidableEq

/-- What stands under a name: a regular file by its inode, or anything else. -/
inductive DirEntry where
  | file (inode : Nat)
  | special

/-- No name refers to an inode that has not been given out. -/
structure Disk (β : Type) where
  entries : FilePath → Option DirEntry
  contents : Nat → List β
  nextInode : Nat
  inode_lt : ∀ path inode, entries path = some (.file inode) → inode < nextInode

namespace Disk
variable {β : Type} {temporary : FilePath → Prop} {start disk disk' : Disk β}
  {path source target : FilePath}

/-- An empty file under a new inode. -/
def create (disk : Disk β) (path : FilePath) : Disk β where
  entries := Function.update disk.entries path (some (.file disk.nextInode))
  contents := Function.update disk.contents disk.nextInode []
  nextInode := disk.nextInode + 1
  inode_lt := by
    intro other inode h
    by_cases heq : other = path
    · rw [heq, Function.update_self] at h
      cases h
      exact Nat.lt_succ_self _
    · rw [Function.update_of_ne heq] at h
      exact Nat.lt_succ_of_lt (disk.inode_lt other inode h)

/-- The file under a name, and under all its other names, gets these contents. -/
def put (disk : Disk β) (path : FilePath) (data : List β) : Disk β :=
  match disk.entries path with
  | some (.file inode) => { disk with contents := Function.update disk.contents inode data }
  | _ => disk

/-- What stands under `source` stands under `target` as well. -/
def link (disk : Disk β) (source target : FilePath) : Disk β :=
  match h : disk.entries source with
  | none => disk
  | some entry =>
    { disk with
      entries := Function.update disk.entries target (some entry)
      inode_lt := by
        intro other inode hentry
        by_cases heq : other = target
        · rw [heq, Function.update_self] at hentry
          rw [hentry] at h
          exact disk.inode_lt source inode h
        · rw [Function.update_of_ne heq] at hentry
          exact disk.inode_lt other inode hentry }

def remove (disk : Disk β) (path : FilePath) : Disk β where
  entries := Function.update disk.entries path none
  contents := disk.contents
  nextInode := disk.nextInode
  inode_lt := by
    intro other inode h
    by_cases heq : other = path
    · rw [heq, Function.update_self] at h
      cases h
    · rw [Function.update_of_ne heq] at h
      exact disk.inode_lt other inode h

/-- What stands under a name, and what is in it. -/
def at_ (disk : Disk β) (path : FilePath) : Option (DirEntry × List β) :=
  (disk.entries path).map fun entry =>
    match entry with
    | .file inode => (entry, disk.contents inode)
    | .special => (entry, [])

/-- The regular file under a name holds these bytes. -/
def Holds (disk : Disk β) (path : FilePath) (data : List β) : Prop :=
  ∃ inode, disk.at_ path = some (.file inode, data)

theorem holds_iff {data : List β} : disk.Holds path data ↔
    ∃ inode, disk.entries path = some (.file inode) ∧ disk.contents inode = data := by
  constructor
  · intro ⟨inode, h⟩
    obtain ⟨entry, hentry, hat⟩ := Option.map_eq_some_iff.mp h
    cases entry with
    | file other =>
      cases hat
      exact ⟨inode, hentry, rfl⟩
    | special => cases hat
  · intro ⟨inode, hentry, hdata⟩
    refine ⟨inode, ?_⟩
    rw [at_, hentry, ← hdata]
    rfl

theorem Holds.unique {data other : List β} (h : disk.Holds path data)
    (hother : disk.Holds path other) : other = data := by
  obtain ⟨inode, hat⟩ := h
  obtain ⟨_, hother⟩ := hother
  rw [hat] at hother
  cases hother
  rfl

theorem holds_of_at_eq {data : List β} (h : disk'.at_ path = disk.at_ path) :
    disk'.Holds path data ↔ disk.Holds path data := by
  rw [Holds, Holds, h]

@[simp] theorem create_entries_self (disk : Disk β) (path : FilePath) :
    (disk.create path).entries path = some (.file disk.nextInode) :=
  Function.update_self ..

theorem create_entries_of_ne (disk : Disk β) (h : target ≠ path) :
    (disk.create path).entries target = disk.entries target :=
  Function.update_of_ne h ..

theorem create_contents (disk : Disk β) (path : FilePath) (h : inode < disk.nextInode) :
    (disk.create path).contents inode = disk.contents inode :=
  Function.update_of_ne (Nat.ne_of_lt h) ..

theorem put_of_file (data : List β) (h : disk.entries path = some (.file inode)) :
    disk.put path data =
      { disk with contents := Function.update disk.contents inode data } := by
  unfold put
  rw [h]

@[simp] theorem put_entries (disk : Disk β) (path : FilePath) (data : List β) :
    (disk.put path data).entries = disk.entries := by
  unfold put
  split <;> rfl

@[simp] theorem put_nextInode (disk : Disk β) (path : FilePath) (data : List β) :
    (disk.put path data).nextInode = disk.nextInode := by
  unfold put
  split <;> rfl

theorem link_entries (disk : Disk β) (h : disk.entries source = some entry) :
    (disk.link source target).entries =
      Function.update disk.entries target (some entry) := by
  unfold link
  split
  · rename_i hnone
    rw [hnone] at h
    cases h
  · rename_i other hother
    rw [hother] at h
    cases h
    rfl

@[simp] theorem link_contents (disk : Disk β) (source target : FilePath) :
    (disk.link source target).contents = disk.contents := by
  unfold link
  split <;> rfl

@[simp] theorem link_nextInode (disk : Disk β) (source target : FilePath) :
    (disk.link source target).nextInode = disk.nextInode := by
  unfold link
  split <;> rfl

theorem remove_entries_of_ne (disk : Disk β) (h : target ≠ path) :
    (disk.remove path).entries target = disk.entries target :=
  Function.update_of_ne h ..

theorem ne_of_lasting {other : FilePath} (h : ¬temporary other) (hpath : temporary path) :
    other ≠ path := by
  rintro rfl
  exact h hpath

/-- What stood on a disk under a lasting name is still there, and so is what was in it. -/
structure Keeps (temporary : FilePath → Prop) (start disk : Disk β) : Prop where
  nextInode_le : start.nextInode ≤ disk.nextInode
  entries : ∀ path entry, ¬temporary path → start.entries path = some entry →
    disk.entries path = some entry
  contents : ∀ inode < start.nextInode, disk.contents inode = start.contents inode

namespace Keeps

theorem refl (temporary : FilePath → Prop) (disk : Disk β) : disk.Keeps temporary disk :=
  ⟨Nat.le_refl _, fun _ _ _ h => h, fun _ _ => rfl⟩

theorem trans (h : start.Keeps temporary disk) (hnext : disk.Keeps temporary disk') :
    start.Keeps temporary disk' where
  nextInode_le := Nat.le_trans h.nextInode_le hnext.nextInode_le
  entries path entry hpath hentry :=
    hnext.entries path entry hpath (h.entries path entry hpath hentry)
  contents inode hlt := by
    rw [hnext.contents inode (Nat.lt_of_lt_of_le hlt h.nextInode_le), h.contents inode hlt]

theorem at_eq (h : start.Keeps temporary disk) (hpath : ¬temporary path)
    (hat : start.at_ path = some found) : disk.at_ path = some found := by
  obtain ⟨entry, hentry, hfound⟩ := Option.map_eq_some_iff.mp hat
  rw [at_, h.entries path entry hpath hentry, ← hfound]
  cases entry with
  | file inode =>
    have hcontents := h.contents inode (start.inode_lt path inode hentry)
    simp only [Option.map_some, hcontents]
  | special => rfl

theorem create (h : start.Keeps temporary disk) (hpath : temporary path) :
    start.Keeps temporary (disk.create path) where
  nextInode_le := Nat.le_succ_of_le h.nextInode_le
  entries other entry hother hentry := by
    rw [create_entries_of_ne disk (ne_of_lasting hother hpath)]
    exact h.entries other entry hother hentry
  contents inode hlt := by
    rw [create_contents disk path (Nat.lt_of_lt_of_le hlt h.nextInode_le)]
    exact h.contents inode hlt

theorem put (h : start.Keeps temporary disk) (hentry : disk.entries path = some (.file inode))
    (hnew : start.nextInode ≤ inode) (data : List β) :
    start.Keeps temporary (disk.put path data) where
  nextInode_le := by
    rw [put_nextInode]
    exact h.nextInode_le
  entries := by
    rw [put_entries]
    exact h.entries
  contents other hlt := by
    rw [put_of_file data hentry]
    have hne : other ≠ inode := Nat.ne_of_lt (Nat.lt_of_lt_of_le hlt hnew)
    exact (Function.update_of_ne hne ..).trans (h.contents other hlt)

theorem link (h : start.Keeps temporary disk) (hsource : disk.entries source = some entry)
    (htarget : disk.entries target = none) :
    start.Keeps temporary (disk.link source target) where
  nextInode_le := by
    rw [link_nextInode]
    exact h.nextInode_le
  entries other found hother hfound := by
    have hkept := h.entries other found hother hfound
    have hne : other ≠ target := by
      intro heq
      rw [heq, htarget] at hkept
      cases hkept
    rw [link_entries disk hsource, Function.update_of_ne hne]
    exact hkept
  contents := by
    rw [link_contents]
    exact h.contents

theorem remove (h : start.Keeps temporary disk) (hpath : temporary path) :
    start.Keeps temporary (disk.remove path) where
  nextInode_le := h.nextInode_le
  entries other entry hother hentry := by
    rw [remove_entries_of_ne disk (ne_of_lasting hother hpath)]
    exact h.entries other entry hother hentry
  contents := h.contents

end Keeps

/-- Under no lasting name has anything come or gone. -/
def SameNames (temporary : FilePath → Prop) (start disk : Disk β) : Prop :=
  ∀ path, ¬temporary path → disk.entries path = start.entries path

namespace SameNames

theorem refl (temporary : FilePath → Prop) (disk : Disk β) : disk.SameNames temporary disk :=
  fun _ _ => rfl

theorem at_eq (h : start.SameNames temporary disk) (hkeeps : start.Keeps temporary disk)
    (hpath : ¬temporary path) : disk.at_ path = start.at_ path := by
  cases hat : start.at_ path with
  | some found => exact hkeeps.at_eq hpath hat
  | none =>
    have hnone := Option.map_eq_none_iff.mp hat
    rw [at_, h path hpath, hnone]
    rfl

theorem create (h : start.SameNames temporary disk) (hpath : temporary path) :
    start.SameNames temporary (disk.create path) := by
  intro other hother
  rw [create_entries_of_ne disk (ne_of_lasting hother hpath)]
  exact h other hother

theorem put (h : start.SameNames temporary disk) (path : FilePath) (data : List β) :
    start.SameNames temporary (disk.put path data) := by
  intro other hother
  rw [put_entries]
  exact h other hother

theorem remove (h : start.SameNames temporary disk) (hpath : temporary path) :
    start.SameNames temporary (disk.remove path) := by
  intro other hother
  rw [remove_entries_of_ne disk (ne_of_lasting hother hpath)]
  exact h other hother

end SameNames
end Disk
end Effect
