import Typeset.Proofs.Disk.Making

/-!
# Disks that grow

A disk grows while directories stay directories and links stay links to where they led.
What a path leads to, if it is a directory, it leads to forever. Making directories,
writing files, and what others put on the disk besides links, all let a disk grow.

A disk that only adds keeps every entry that it had.
-/

namespace Typeset

/-- A path is a beginning of another one. -/
structure HostPath.IsAbove (path target : HostPath) : Prop where
  anchor : path.anchor = target.anchor
  components : path.components <+: target.components

theorem HostPath.IsAbove.refl (path : HostPath) : path.IsAbove path :=
  ⟨rfl, List.prefix_rfl⟩

theorem HostPath.IsAbove.parent {path target : HostPath} (above : path.IsAbove target) :
    path.parent.IsAbove target :=
  ⟨above.anchor, path.components.dropLast_prefix.trans above.components⟩

namespace Disk

variable {first second third before after disk made : Disk} {ending : PathEnd} {links : Nat}
  {place result : Place} {names : List String} {path : HostPath} {entry : DiskEntry}
  {content : Bytes} {targets : HostPath → Prop} {target : HostPath}

/-- Directories stay directories, and links stay links to the same path. -/
structure Grows (before after : Disk) : Prop where
  directories : ∀ place, before.entry? place = some .directory →
    after.entry? place = some .directory
  links : ∀ place target, before.entry? place = some (.link target) →
    after.entry? place = some (.link target)

namespace Grows

theorem refl (disk : Disk) : disk.Grows disk :=
  ⟨fun _ there => there, fun _ _ there => there⟩

theorem trans (early : first.Grows second) (late : second.Grows third) : first.Grows third where
  directories place there := late.directories place (early.directories place there)
  links place target there := late.links place target (early.links place target there)

theorem of_alike (alike : before.Alike after) : before.Grows after where
  directories place there := alike place ▸ there
  links place _ there := alike place ▸ there

/-- Only a directory or a link must not be replaced. -/
theorem put (other : disk.entry? place ≠ some .directory)
    (noLink : ∀ target, disk.entry? place ≠ some (.link target)) (entry : DiskEntry) :
    disk.Grows (disk.put place entry) where
  directories kept there := by
    rwa [entry?_put_of_ne]
    rintro rfl
    exact other there
  links kept target there := by
    rwa [entry?_put_of_ne]
    rintro rfl
    exact noLink target there

theorem put_absent (absent : disk.entry? place = none) (entry : DiskEntry) :
    disk.Grows (disk.put place entry) :=
  put (by simp [absent]) (by simp [absent]) entry

end Grows

/-! ## Walks -/

/-- A walk to a directory meets directories and links only. -/
theorem Arrives.grow (arrives : before.Arrives ending links place names result)
    (through : ending.throughLink = true) (there : before.entry? result = some .directory)
    (grows : before.Grows after) : after.Arrives ending links place names result := by
  induction arrives with
  | here => exact .here
  | up below _ ih => exact .up below (ih there)
  | into nameable entry _ ih => exact .into nameable (grows.directories _ entry) (ih there)
  | atMissing _ absent => cases absent.symm.trans there
  | atFile _ entry => cases entry.symm.trans there
  | atLink _ _ stays => cases stays.symm.trans through
  | through nameable entry followed relative _ ih =>
      exact .through nameable (grows.links _ _ entry) followed relative (ih there)

theorem LeadsTo.grow (leads : before.LeadsTo path place) (grows : before.Grows after) :
    after.LeadsTo path place := by
  have arrives := (arrives_of_locate leads.found).grow rfl leads.there grows
  refine ⟨?_, grows.directories place leads.there⟩
  rw [locate_of_walkable (walkable_of_locate leads.found), follow_of_arrives arrives]

theorem isDirectory_of_grows (found : before.isDirectory path = .ok true)
    (grows : before.Grows after) : after.isDirectory path = .ok true := by
  rcases isDirectory_eq_true_iff.mp found with ⟨place, leads⟩
  exact isDirectory_eq_true_iff.mpr ⟨place, leads.grow grows⟩

/-- A walk that follows its last link does not arrive at one. -/
theorem Arrives.noLink (arrives : disk.Arrives ending links place names result)
    (through : ending.throughLink = true) (rooted : disk.Rooted)
    (start : disk.entry? place = some .directory) (target : HostPath) :
    disk.entry? result ≠ some (.link target) := by
  induction arrives with
  | here => simp [start]
  | up _ _ ih => exact ih (rooted.dropLast (by simp [start]))
  | into _ entry _ ih => exact ih entry
  | atMissing _ absent => simp [absent]
  | atFile _ entry => simp [entry]
  | atLink _ _ stays => cases stays.symm.trans through
  | through _ _ _ _ _ ih => exact ih start

/-! ## Disks that only add -/

/--
Every entry stays. What is new is a directory that one of some paths leads through, or lies in
the directory that it leads to.
-/
structure Adds (targets : HostPath → Prop) (before after : Disk) : Prop where
  kept : ∀ place entry, before.entry? place = some entry → after.entry? place = some entry
  new : ∀ place entry, after.entry? place = some entry →
    before.entry? place = some entry ∨ ∃ target, targets target ∧
      (entry = .directory ∧ (∃ path, path.IsAbove target ∧ after.LeadsTo path place) ∨
        ∃ root, after.LeadsTo target root ∧ root <+: place)

namespace Adds

theorem refl (disk : Disk) : disk.Adds targets disk :=
  ⟨fun _ _ there => there, fun _ _ there => .inl there⟩

theorem of_alike (alike : before.Alike after) : before.Adds targets after :=
  ⟨fun place _ there => alike place ▸ there, fun place _ there => .inl (alike place ▸ there)⟩

theorem grows (adds : before.Adds targets after) : before.Grows after :=
  ⟨fun place => adds.kept place _, fun place _ => adds.kept place _⟩

theorem trans (early : first.Adds targets second) (late : second.Adds targets third) :
    first.Adds targets third where
  kept place entry there := late.kept place entry (early.kept place entry there)
  new place entry there := by
    rcases late.new place entry there with before | new
    · rcases early.new place entry before with older |
        ⟨target, isTarget, ⟨made, path, above, leads⟩ | ⟨root, leads, within⟩⟩
      · exact .inl older
      · exact .inr ⟨target, isTarget, .inl ⟨made, path, above, leads.grow late.grows⟩⟩
      · exact .inr ⟨target, isTarget, .inr ⟨root, leads.grow late.grows, within⟩⟩
    · exact .inr new

end Adds

/-! ## Making directories and files -/

theorem adds_ensureDirectory (isTarget : targets target) (above : path.IsAbove target)
    (disk : Disk) : disk.Adds targets (disk.ensureDirectory path).1 := by
  simp only [ensureDirectory]
  split
  · next making =>
      rcases leadsTo_of_makeDirectory making with ⟨place, absent, rfl, leads⟩
      refine ⟨fun other entry there => ?_, fun other entry there => ?_⟩
      · rwa [entry?_put_of_ne]
        rintro rfl
        cases absent.symm.trans there
      · by_cases here : other = place
        · rw [here] at there ⊢
          cases leads.there.symm.trans there
          exact .inr ⟨target, isTarget, .inl ⟨rfl, path, above, leads⟩⟩
        · rw [entry?_put_of_ne _ here] at there
          exact .inl there
  · exact .refl disk
  · exact .refl disk

theorem adds_ensureDirectoriesFrom (isTarget : targets target) (above : path.IsAbove target)
    (disk : Disk) (levels : Nat) :
    disk.Adds targets (disk.ensureDirectoriesFrom path levels).1 := by
  induction levels generalizing path with
  | zero => exact adds_ensureDirectory isTarget above disk
  | succ levels ih =>
      simp only [ensureDirectoriesFrom]
      have higher := ih above.parent
      split
      · split
        · next made =>
            rw [made] at higher
            exact higher.trans (adds_ensureDirectory isTarget above _)
        · exact higher
      · exact adds_ensureDirectory isTarget above disk

theorem adds_ensureDirectories (isTarget : targets target) (above : path.IsAbove target)
    (disk : Disk) : disk.Adds targets (disk.ensureDirectories path).1 :=
  adds_ensureDirectoriesFrom isTarget above disk _

theorem grows_ensureDirectories (disk : Disk) (path : HostPath) :
    disk.Grows (disk.ensureDirectories path).1 :=
  (adds_ensureDirectories (rfl : path = path) (.refl path) disk).grows

theorem Rooted.grows_write (rooted : disk.Rooted) (written : disk.write path content = .ok made) :
    disk.Grows made := by
  rcases write_eq_ok_iff.mp written with ⟨place, found, other, rfl⟩
  exact .put other ((arrives_of_locate found).noLink rfl rooted (entry?_nil disk)) _

theorem kept_grows (before : Disk) : Kept fun after => before.Grows after ∧ after.Rooted where
  makeDirectory := by
    rintro disk made path ⟨grows, rooted⟩ making
    refine ⟨grows.trans ?_, kept_rooted.makeDirectory rooted making⟩
    rcases makeDirectory_eq_ok_iff.mp making with ⟨place, found, absent, rfl⟩
    exact .put_absent absent _
  write := by
    rintro disk made path content ⟨grows, rooted⟩ written
    exact ⟨grows.trans (rooted.grows_write written), kept_rooted.write rooted written⟩

/-! ## What others put on the disk -/

theorem Rooted.grows_plant (rooted : disk.Rooted) (path : HostPath)
    (noLink : ∀ target, entry ≠ .link target) : disk.Grows (disk.plant path entry) :=
  ((kept_grows disk).plant ⟨.refl disk, rooted⟩ path entry fun same =>
    absurd same (noLink _)).1

theorem Rooted.grows_plantAll (rooted : disk.Rooted) {entries : List (HostPath × DiskEntry)}
    (noLinks : ∀ planted ∈ entries, ∀ target, planted.2 ≠ .link target) :
    disk.Grows (disk.plantAll entries) := by
  induction entries generalizing disk with
  | nil => exact .refl disk
  | cons planted entries ih =>
      rcases List.forall_mem_cons.mp noLinks with ⟨here, later⟩
      exact (rooted.grows_plant planted.1 here).trans (ih (rooted.plant planted.1 planted.2) later)

end Disk

end Typeset
