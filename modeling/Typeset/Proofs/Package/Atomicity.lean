import Typeset.Proofs.Archive.Relocation
import Typeset.Proofs.Disk.Chains
import Typeset.Proofs.Disk.Growth
import Typeset.Proofs.Package.Install

/-!
# An installation is all or nothing

An installation leaves the disk as it was, but for directories above the package's place,
or it leaves the whole package at its place and changes nothing else. In the first case no
fresh directory remains either, and nothing has come to the package's place.
-/

namespace Typeset.PackageStorage

open Disk

variable {storage : PackageStorage} {disk ready staged unpacked finished : Disk}
  {spec : PackageSpec} {body : ArchiveData}
  {staging path target : HostPath} {parent place : Place} {name version : String}
  {members : List ArchiveMember}

/--
What an archive extracts to has come to a place where nothing was, and nothing else has
changed.
-/
structure Placed (ready left : Disk) (target : HostPath) (place : Place)
    (members : List ArchiveMember) : Prop where
  free : ready.entry? place = none
  above : ready.entry? place.dropLast = some .directory
  leads : left.LeadsTo target place
  alike : AlikeBeside [place] ready left
  holds : ∃ alone, ArchiveData.extractAlone members = .ok alone ∧
    ∀ inner, left.entry? (place ++ inner) = alone.entry? ("p" :: inner)

/-- Data that is unpacked is an archive whose members stay in the directory. -/
theorem unpack_eq_value (unpacks : storage.unpack disk target spec body = .value unpacked) :
    ∃ members, body.open? = .ok members ∧
      (∀ member ∈ members, ArchiveData.staysInside member = true) ∧
      ArchiveData.extract disk target members = .ok unpacked := by
  rw [unpack] at unpacks
  cases opened : body.open? with
  | error damage =>
      rw [opened] at unpacks
      cases damage <;> cases unpacks
  | ok members =>
      simp only [opened] at unpacks
      cases extracted : storage.extract disk target members with
      | error refusal =>
          rw [extracted] at unpacks
          cases refusal <;> cases unpacks
      | ok made =>
          rw [extracted] at unpacks
          cases unpacks
          exact ⟨members, rfl, of_extract extracted⟩

theorem install_ne_value_of_damaged {damage : ArchiveData.Damage}
    (damaged : body.open? = .error damage) (storage : PackageStorage) (disk : Disk)
    (spec : PackageSpec) (target : HostPath) :
    (storage.install disk spec target body).2 ≠ .value () := by
  have refused (disk : Disk) (directory : HostPath) (unpacked : Disk) :
      storage.unpack disk directory spec body ≠ .value unpacked := by
    intro unpacks
    rcases unpack_eq_value unpacks with ⟨members, opened, _⟩
    cases damaged.symm.trans opened
  simp only [install]
  split
  · simp
  · split
    · simp
    · next staging staged _ =>
        cases unpacks : storage.unpack staged staging spec body with
        | value unpacked => exact absurd unpacks (refused _ _ _)
        | failed error => simp [Outcome.andThen]
        | broken fault => simp [Outcome.andThen]

/-- What is published was there before, or is moved to a place where nothing is. -/
theorem publish_eq_value (published : publish unpacked staging target = .value finished) :
    finished = unpacked ∨
      ∃ source place, unpacked.locate staging ⟨false, false⟩ = .ok source ∧
        unpacked.locate target ⟨false, true⟩ = .ok place ∧ unpacked.entry? place = none ∧
        finished = unpacked.moveTree source place := by
  simp only [publish] at published
  split at published
  · cases published
  · cases published
    exact .inl rfl
  · split at published
    · next source place from_ to_ =>
        split at published
        · cases published
        · next absent =>
            cases published
            exact .inr ⟨source, place, from_, to_, by simpa using absent, rfl⟩
    · cases published
    · cases published

/-- What is unpacked in the fresh directory and then moved is placed. -/
theorem placed_of_extract (rooted : ready.Rooted) (fresh : ready.FreshPlace path parent name)
    (named : name ≠ "") (free : ready.FreshPlace path parent version) (different : name ≠ version)
    (inside : ∀ member ∈ members, ArchiveData.staysInside member = true)
    (extracts : ArchiveData.extract (ready.put (parent ++ [name]) .directory) (path.append [name])
      members = .ok unpacked) :
    Placed ready (unpacked.moveTree (parent ++ [name]) (parent ++ [version]))
      (path.append [version]) (parent ++ [version]) members := by
  have filling := (fresh.filling rooted).extract fresh inside extracts
  rcases ArchiveData.extract_eq_alone fresh rooted named inside extracts with ⟨alone, alike, same⟩
  have above : ready.entry? (parent ++ [version]).dropLast = some .directory := by
    rw [List.dropLast_concat, fresh.leads.there]
  refine ⟨free.absent, above, filling.leadsTo_target fresh free different rooted,
    filling.alikeBeside_moved fresh rooted, alone, alike, ?_⟩
  intro inner
  rw [filling.entry?_moved fresh free different rooted, same]

/-- What is unpacked and published is placed, or was not needed. -/
theorem published_leaves (rooted : ready.Rooted) (fresh : ready.FreshPlace path parent name)
    (named : name ≠ "")
    (unpacks : storage.unpack (ready.put (parent ++ [name]) .directory) (path.append [name]) spec
      body = .value unpacked)
    (published : publish unpacked (path.append [name]) (path.append [version]) =
      .value finished) :
    (finished.remove (path.append [name])).Alike ready ∨
      ∃ members place, body.open? = .ok members ∧
        Placed ready (finished.remove (path.append [name])) (path.append [version]) place
          members := by
  rcases unpack_eq_value unpacks with ⟨members, opened, inside, extracts⟩
  have filling := (fresh.filling rooted).extract fresh inside extracts
  rcases publish_eq_value published with rfl | ⟨source, place, from_, to_, absent, rfl⟩
  · exact .inl (filling.alike_remove fresh rooted)
  · rcases free_of_publish rooted fresh filling to_ absent with ⟨free, different⟩
    have leads := Filling.leadsTo_above fresh filling
    have start := leads.locate_directory fresh.walkable fresh.nameable filling.there ⟨false, false⟩
    have stop := leads.locate_missing free.walkable free.nameable
      (filling.sibling_absent free different) ⟨false, true⟩
    cases start.symm.trans from_
    cases stop.symm.trans to_
    rw [filling.remove_moved fresh free different]
    exact .inr ⟨members, _, opened,
      placed_of_extract rooted fresh named free different inside extracts⟩

/-- An installation leaves the package at its place, or nothing but the directories above. -/
theorem install_leaves (storage : PackageStorage) (rooted : disk.Rooted) (spec : PackageSpec)
    (path : HostPath) (version : String) (body : ArchiveData) :
    (storage.install disk spec (path.append [version]) body).1.Alike
        (disk.ensureDirectories path).1 ∨
      (storage.install disk spec (path.append [version]) body).2 = .value () ∧
        ∃ members place, body.open? = .ok members ∧
          Placed (disk.ensureDirectories path).1
            (storage.install disk spec (path.append [version]) body).1 (path.append [version])
            place members := by
  have readyRooted := rooted.ensureDirectories path
  cases above : disk.ensureDirectories path with
  | mk ready refused =>
      rw [above] at readyRooted
      rw [← HostPath.parent_append path version] at above
      cases refused with
      | some fault =>
          simp only [install, above]
          exact .inl fun _ => rfl
      | none =>
          cases beside : makeStaging ready (path.append [version]).parent spec with
          | error fault =>
              simp only [install, above, beside]
              exact .inl fun _ => rfl
          | ok made =>
              rcases made with ⟨staging, staged⟩
              have stages : Stages disk spec (path.append [version]) ready staging staged :=
                ⟨above, beside⟩
              rw [HostPath.parent_append] at above beside
              rcases leadsTo_of_ensureDirectories above with ⟨parent, leads⟩
              rcases staged_of_makeStaging readyRooted leads beside with
                ⟨name, named, rfl, fresh, rfl⟩
              have unfilled := (fresh.filling readyRooted).alike_remove fresh readyRooted
              rw [install_of_stages stages]
              cases unpacks : storage.unpack (ready.put (parent ++ [name]) .directory)
                (path.append [name]) spec body with
              | failed error => exact .inl unfilled
              | broken fault => exact .inl unfilled
              | value unpacked =>
                  simp only [Outcome.andThen]
                  cases published :
                    publish unpacked (path.append [name]) (path.append [version]) with
                  | failed error => exact .inl unfilled
                  | broken fault => exact .inl unfilled
                  | value finished =>
                      rcases published_leaves readyRooted fresh named unpacks published with
                        alike | placed
                      · exact .inl alike
                      · exact .inr ⟨rfl, placed⟩

/-! ## The disk stays rooted and without links, and grows -/

theorem Placed.rooted {left : Disk} (placed : Placed ready left target place members)
    (rooted : ready.Rooted) : left.Rooted := by
  rcases placed.holds with ⟨alone, extracted, holds⟩
  have within := ArchiveData.rooted_of_extractAlone extracted
  intro above name there
  by_cases below : place <+: above
  · rcases below with ⟨inner, rfl⟩
    rw [List.append_assoc, holds] at there
    rw [holds]
    exact within ("p" :: inner) name there
  · by_cases here : place <+: above ++ [name]
    · rcases List.prefix_concat_iff.mp here with rfl | deeper
      · rw [← placed.alike _ (beside_singleton.mpr below)]
        simpa using placed.above
      · exact absurd deeper below
    · rw [← placed.alike _ (beside_singleton.mpr below)]
      rw [← placed.alike _ (beside_singleton.mpr here)] at there
      exact rooted above name there

theorem Placed.linkFree {left : Disk} (placed : Placed ready left target place members)
    (free : ready.LinkFree) : left.LinkFree := by
  rcases placed.holds with ⟨alone, extracted, holds⟩
  intro other link there
  by_cases below : place <+: other
  · rcases below with ⟨inner, rfl⟩
    rw [holds] at there
    exact ArchiveData.linkFree_of_extractAlone extracted _ _ there
  · rw [← placed.alike _ (beside_singleton.mpr below)] at there
    exact free _ _ there

/-- What is placed is added in the directory of its path. -/
theorem Placed.adds {left : Disk} {targets : HostPath → Prop}
    (placed : Placed ready left target place members) (rooted : ready.Rooted)
    (isTarget : targets target) : ready.Adds targets left where
  kept other entry there := by
    rw [← placed.alike, there]
    refine beside_singleton.mpr fun below => ?_
    cases (rooted.absent_below placed.free below).symm.trans there
  new other entry there := by
    by_cases within : place <+: other
    · exact .inr ⟨target, isTarget, .inr ⟨place, placed.leads, within⟩⟩
    · rw [← placed.alike _ (beside_singleton.mpr within)] at there
      exact .inl there

theorem rooted_install (storage : PackageStorage) (rooted : disk.Rooted) (spec : PackageSpec)
    (path : HostPath) (version : String) (body : ArchiveData) :
    (storage.install disk spec (path.append [version]) body).1.Rooted := by
  have ready := rooted.ensureDirectories path
  rcases storage.install_leaves rooted spec path version body with alike | ⟨_, _, _, _, placed⟩
  · exact ready.congr alike
  · exact placed.rooted ready

theorem linkFree_install (storage : PackageStorage) (rooted : disk.Rooted) (free : disk.LinkFree)
    (spec : PackageSpec) (path : HostPath) (version : String) (body : ArchiveData) :
    (storage.install disk spec (path.append [version]) body).1.LinkFree := by
  have ready := kept_linkFree.ensureDirectories free path
  rcases storage.install_leaves rooted spec path version body with alike | ⟨_, _, _, _, placed⟩
  · exact ready.congr alike
  · exact placed.linkFree ready

theorem grows_install (storage : PackageStorage) (rooted : disk.Rooted) (spec : PackageSpec)
    (path : HostPath) (version : String) (body : ArchiveData) :
    disk.Grows (storage.install disk spec (path.append [version]) body).1 := by
  have above := grows_ensureDirectories disk path
  rcases storage.install_leaves rooted spec path version body with alike | ⟨_, _, _, _, placed⟩
  · exact above.trans (.of_alike fun place => (alike place).symm)
  · exact above.trans (placed.adds (rooted.ensureDirectories path) rfl).grows

end Typeset.PackageStorage
