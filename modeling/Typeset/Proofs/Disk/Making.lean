import Typeset.Proofs.Disk.Walks

/-!
# Making directories and files

Whatever keeps when a directory is made and when a file is written keeps on the whole:
every operation that adds an entry puts it into a directory, so a rooted disk stays
rooted. Where a directory was made, or was found to be there, its path leads to it.
-/

namespace Typeset.Disk

variable {disk made : Disk} {path : HostPath} {place : Place} {content : Bytes}

theorem makeDirectory_eq_ok_iff :
    disk.makeDirectory path = .ok made ↔
      ∃ place, disk.locate path ⟨false, true⟩ = .ok place ∧ disk.entry? place = none ∧
        made = disk.put place .directory := by
  rw [makeDirectory]
  cases disk.locate path ⟨false, true⟩ with
  | error fault => simp [Bind.bind, Except.bind]
  | ok place =>
      cases present : disk.entry? place with
      | none =>
          simp only [Bind.bind, Except.bind, Pure.pure, Except.pure, present, Except.ok.injEq]
          constructor
          · rintro rfl
            exact ⟨place, rfl, present, rfl⟩
          · rintro ⟨_, rfl, _, rfl⟩
            rfl
      | some kind =>
          simp only [Bind.bind, Except.bind, present, Except.ok.injEq]
          constructor
          · intro thrown
            cases thrown
          · rintro ⟨_, rfl, absent, _⟩
            cases absent.symm.trans present

theorem write_eq_ok_iff :
    disk.write path content = .ok made ↔
      ∃ place, disk.locate path ⟨true, true⟩ = .ok place ∧
        disk.entry? place ≠ some .directory ∧ made = disk.put place (.file content) := by
  rw [write]
  cases disk.locate path ⟨true, true⟩ with
  | error fault => simp [Bind.bind, Except.bind]
  | ok place =>
      simp only [Bind.bind, Except.bind, Pure.pure, Except.pure, Except.ok.injEq]
      split
      · next present =>
          constructor
          · intro thrown
            cases thrown
          · rintro ⟨_, rfl, other, _⟩
            exact absurd present other
      · next other =>
          rw [Except.ok.injEq]
          constructor
          · rintro rfl
            exact ⟨place, rfl, other, rfl⟩
          · rintro ⟨_, rfl, _, rfl⟩
            rfl

/-- A directory is made where nothing is, and its path leads there. -/
theorem leadsTo_of_makeDirectory (making : disk.makeDirectory path = .ok made) :
    ∃ place, disk.entry? place = none ∧ made = disk.put place .directory ∧
      made.LeadsTo path place := by
  rcases makeDirectory_eq_ok_iff.mp making with ⟨place, found, absent, rfl⟩
  refine ⟨place, absent, rfl, ?_, entry?_put_self _ (ne_nil_of_absent absent) _⟩
  rw [locate_of_walkable (walkable_of_locate found)]
  exact follow_of_arrives ((arrives_of_locate found).put_directory absent _)

theorem leadsTo_of_ensureDirectory (ensured : disk.ensureDirectory path = (made, none)) :
    ∃ place, made.LeadsTo path place := by
  simp only [ensureDirectory] at ensured
  split at ensured
  · next making =>
      cases ensured
      rcases leadsTo_of_makeDirectory making with ⟨place, _, _, leads⟩
      exact ⟨place, leads⟩
  · next _ found =>
      cases ensured
      exact isDirectory_eq_true_iff.mp found
  · cases ensured

theorem leadsTo_of_ensureDirectories (ensured : disk.ensureDirectories path = (made, none)) :
    ∃ place, made.LeadsTo path place := by
  have onLevels : ∀ levels path, disk.ensureDirectoriesFrom path levels = (made, none) →
      ∃ place, made.LeadsTo path place := by
    intro levels path ensured
    cases levels with
    | zero => exact leadsTo_of_ensureDirectory ensured
    | succ levels =>
        simp only [ensureDirectoriesFrom] at ensured
        split at ensured
        · split at ensured
          · exact leadsTo_of_ensureDirectory ensured
          · next refused => exact absurd ensured (refused _)
        · exact leadsTo_of_ensureDirectory ensured
  exact onLevels _ _ ensured

/-- What was written to a path is read there. -/
theorem read_of_write (written : disk.write path content = .ok made) :
    made.read path = .ok content := by
  rcases write_eq_ok_iff.mp written with ⟨place, found, other, rfl⟩
  have below : place ≠ [] := by
    rintro rfl
    exact other (entry?_nil disk)
  have arrives := ((arrives_of_locate found).put_file (.top disk) other content).2
  have stat : (disk.put place (.file content)).stat path = .ok (place, .file content) := by
    refine stat_eq_ok_iff.mpr ⟨?_, entry?_put_self _ below _⟩
    rw [locate_of_walkable (walkable_of_locate found), follow_of_arrives arrives]
  rw [read, stat]
  rfl

/-! ## What making keeps -/

/-- Whatever holds of a disk holds when a directory was made or a file was written. -/
structure Kept (holds : Disk → Prop) : Prop where
  makeDirectory : ∀ {disk made : Disk} {path : HostPath}, holds disk →
    disk.makeDirectory path = .ok made → holds made
  write : ∀ {disk made : Disk} {path : HostPath} {content : Bytes}, holds disk →
    disk.write path content = .ok made → holds made

namespace Kept

variable {holds : Disk → Prop} (kept : Kept holds)

include kept

theorem ensureDirectory (start : holds disk) (path : HostPath) :
    holds (disk.ensureDirectory path).1 := by
  simp only [Disk.ensureDirectory]
  split
  · next making => exact kept.makeDirectory start making
  · exact start
  · exact start

theorem ensureDirectoriesFrom (start : holds disk) (path : HostPath) (levels : Nat) :
    holds (disk.ensureDirectoriesFrom path levels).1 := by
  induction levels generalizing path with
  | zero => exact kept.ensureDirectory start path
  | succ levels ih =>
      simp only [Disk.ensureDirectoriesFrom]
      have above := ih path.parent
      split
      · split
        · next made =>
            rw [made] at above
            exact kept.ensureDirectory above path
        · exact above
      · exact kept.ensureDirectory start path

theorem ensureDirectories (start : holds disk) (path : HostPath) :
    holds (disk.ensureDirectories path).1 :=
  kept.ensureDirectoriesFrom start path _

/-- What others put on the disk is made like everything else, unless it is a link. -/
theorem plant (start : holds disk) (path : HostPath) (entry : DiskEntry)
    (links : ∀ {disk : Disk} {place : Place} {target : HostPath}, entry = .link target →
      holds disk → disk.locate path ⟨false, true⟩ = .ok place →
      disk.entry? place ≠ some .directory → holds (disk.put place (.link target))) :
    holds (disk.plant path entry) := by
  have above := kept.ensureDirectories start path.parent
  simp only [Disk.plant]
  generalize (disk.ensureDirectories path.parent).1 = ready at above
  cases entry with
  | file content =>
      simp only
      cases written : ready.write path content with
      | error fault => exact above
      | ok made => exact kept.write above written
  | directory => exact kept.ensureDirectories above path
  | link target =>
      dsimp only
      split
      · next found =>
          split
          · exact above
          · next other => exact links rfl above found other
      · exact above

end Kept

/-! ## Rooted disks stay rooted -/

theorem kept_rooted : Kept Rooted where
  makeDirectory := by
    intro disk made path rooted making
    rcases makeDirectory_eq_ok_iff.mp making with ⟨place, found, absent, rfl⟩
    exact rooted.put (rooted.above_locate found) (by simp [absent])
  write := by
    intro disk made path content rooted written
    rcases write_eq_ok_iff.mp written with ⟨place, found, other, rfl⟩
    exact rooted.put (rooted.above_locate found) other

namespace Rooted

theorem congr (rooted : disk.Rooted) (alike : made.Alike disk) : made.Rooted := by
  intro place name there
  rw [alike] at there ⊢
  exact rooted place name there

theorem ensureDirectories (rooted : disk.Rooted) (path : HostPath) :
    (disk.ensureDirectories path).1.Rooted :=
  kept_rooted.ensureDirectories rooted path

theorem plant (rooted : disk.Rooted) (path : HostPath) (entry : DiskEntry) :
    (disk.plant path entry).Rooted := by
  apply kept_rooted.plant rooted
  intro disk place target _ rooted found other
  exact rooted.put (rooted.above_locate found) other

theorem plantAll (rooted : disk.Rooted) (entries : List (HostPath × DiskEntry)) :
    (disk.plantAll entries).Rooted := by
  induction entries generalizing disk with
  | nil => exact rooted
  | cons entry entries ih => exact ih (rooted.plant entry.1 entry.2)

end Rooted

end Typeset.Disk
