import Typeset.Proofs.HostPath
import Typeset.Proofs.Package.Publish

/-!
# Installing a package

A call that answers with the directory of a package, or fails with a package error,
ends well. The installation of a downloaded package ends well unless one of five
mishaps occurs: the system refuses the directories above the package or the fresh
directory, the data breaks its reader off, or the package's place is taken by
something else, be it the fresh directory itself.
-/

namespace Typeset

theorem HostPath.parent_append (path : HostPath) (name : String) :
    (path.append [name]).parent = path := by
  simp [append, parent]

namespace PackageStorage

open Disk

/-- A call answers with a directory of the disk that it leaves, or fails with a package error. -/
def EndsWell (outcome : Outcome HostPath) (disk : Disk) : Prop :=
  (∃ path, outcome = .value path ∧ disk.isDirectory path = .ok true) ∨
    ∃ error, outcome = .failed error ∧ error.kind = .package

variable {storage : PackageStorage} {disk ready staged unpacked : Disk} {spec : PackageSpec}
  {body : ArchiveData} {directory staging target path : HostPath} {parent : Place}
  {name version : String}

theorem endsWell_value_iff : EndsWell (.value path) disk ↔ disk.isDirectory path = .ok true := by
  simp [EndsWell]

theorem endsWell_failed_iff {error : FileError} :
    EndsWell (.failed error) disk ↔ error.kind = .package := by
  simp [EndsWell]

theorem not_endsWell_broken (fault : Fault) : ¬EndsWell (.broken fault) disk := by
  simp [EndsWell]

/-! ## Unpacking -/

/-- Data that breaks its reader off; other data that is no proper archive is refused. -/
inductive Breaks (storage : PackageStorage) (disk : Disk) (directory : HostPath)
    (body : ArchiveData) : Prop
  | endsEarly (opened : body.open? = .error .endsEarly)
  | corrupt {message : String} (opened : body.open? = .error (.corrupt message))
  /-- The first member that is refused, before any is extracted, has no proper name. -/
  | zeroInName {members : List ArchiveMember} {member : ArchiveMember}
      (ahead : storage.inTurn = false) (opened : body.open? = .ok members)
      (offends : ArchiveData.offender? members = some member) (zero : member.hasZero = true)
  /-- A member has no proper name, and the members before it are extracted. -/
  | zeroInTurn {before after : List ArchiveMember} {member : ArchiveMember} {grown : Disk}
      (inTurn : storage.inTurn = true) (opened : body.open? = .ok (before ++ member :: after))
      (extracted : ArchiveData.extractInTurn disk directory before = .ok grown)
      (zero : member.hasZero = true)

theorem of_extract {members : List ArchiveMember}
    (extracted : storage.extract disk directory members = .ok unpacked) :
    (∀ member ∈ members, ArchiveData.staysInside member = true) ∧
      ArchiveData.extract disk directory members = .ok unpacked := by
  rw [extract] at extracted
  split at extracted
  · exact ArchiveData.of_extractInTurn extracted
  · exact ArchiveData.of_extractSafe extracted

theorem breaks_iff : storage.Breaks disk directory body ↔
    body.open? = .error .endsEarly ∨ (∃ message, body.open? = .error (.corrupt message)) ∨
      ∃ members, body.open? = .ok members ∧
        storage.extract disk directory members = .error .zeroInName := by
  constructor
  · intro breaks
    cases breaks with
    | endsEarly opened => exact .inl opened
    | corrupt opened => exact .inr (.inl ⟨_, opened⟩)
    | zeroInName ahead opened offends zero =>
        refine .inr (.inr ⟨_, opened, ?_⟩)
        rw [extract, if_neg (by simp [ahead])]
        exact ArchiveData.extractSafe_eq_zeroInName_iff.mpr ⟨_, offends, zero⟩
    | zeroInTurn inTurn opened extracted zero =>
        refine .inr (.inr ⟨_, opened, ?_⟩)
        rw [extract, if_pos inTurn]
        exact ArchiveData.extractInTurn_eq_zeroInName_iff.mpr
          ⟨_, _, _, _, rfl, extracted, zero⟩
  · rintro (opened | ⟨message, opened⟩ | ⟨members, opened, refused⟩)
    · exact .endsEarly opened
    · exact .corrupt opened
    · rw [extract] at refused
      split at refused
      · next inTurn =>
          rcases ArchiveData.extractInTurn_eq_zeroInName_iff.mp refused with
            ⟨before, member, after, grown, rfl, extracted, zero⟩
          exact .zeroInTurn inTurn opened extracted zero
      · next ahead =>
          rcases ArchiveData.extractSafe_eq_zeroInName_iff.mp refused with ⟨member, offends, zero⟩
          exact .zeroInName (by simpa using ahead) opened offends zero

theorem unpack_breaks (breaks : storage.Breaks disk directory body) :
    ∃ fault, storage.unpack disk directory spec body = .broken fault := by
  rcases breaks_iff.mp breaks with opened | ⟨message, opened⟩ | ⟨members, opened, refused⟩
  · exact ⟨_, by rw [unpack, opened]⟩
  · exact ⟨_, by rw [unpack, opened]⟩
  · refine ⟨DiskFault.zeroInPath.toFault, ?_⟩
    simp only [unpack, opened, refused]
    rfl

/-- Data that does not break its reader off is unpacked or refused. -/
theorem unpack_cases (storage : PackageStorage) (disk : Disk) (directory : HostPath)
    (spec : PackageSpec) (whole : ¬storage.Breaks disk directory body) :
    (∃ members unpacked, storage.unpack disk directory spec body = .value unpacked ∧
      (∀ member ∈ members, ArchiveData.staysInside member = true) ∧
      ArchiveData.extract disk directory members = .ok unpacked) ∨
    ∃ error, storage.unpack disk directory spec body = .failed error ∧
      error.kind = .package := by
  simp only [breaks_iff, not_or] at whole
  rcases whole with ⟨notEarly, notCorrupt, proper⟩
  simp only [unpack]
  cases opened : body.open? with
  | error damage =>
      cases damage with
      | endsEarly => exact absurd opened notEarly
      | corrupt message => exact absurd ⟨message, opened⟩ notCorrupt
      | empty | notCompressed | unreadable => exact .inr ⟨notExtracted spec _, rfl, rfl⟩
  | ok members =>
      dsimp only
      cases extracted : storage.extract disk directory members with
      | ok unpacked => exact .inl ⟨members, unpacked, rfl, of_extract extracted⟩
      | error refusal =>
          cases refusal with
          | zeroInName => exact absurd ⟨members, opened, extracted⟩ proper
          | unsafePath | outside | system => exact .inr ⟨_, rfl, rfl⟩

/-! ## The fresh directory -/

theorem of_makeStaging (made : makeStaging ready path spec = .ok (staging, staged)) :
    ∃ number : Nat, staging = path.append [s!".{spec.name}-{number}"] ∧
      ready.makeDirectory staging = .ok staged := by
  simp only [makeStaging] at made
  split at made
  · cases made
  · split at made
    · next found =>
        cases made
        rcases List.exists_of_findSome?_eq_some found with ⟨candidate, listed, chosen⟩
        rcases List.mem_map.mp listed with ⟨name, named, rfl⟩
        rcases List.mem_map.mp named with ⟨number, _, rfl⟩
        cases making : ready.makeDirectory (path.append [s!".{spec.name}-{number}"]) with
        | error fault =>
            simp only [making] at chosen
            cases chosen
        | ok made =>
            simp only [making, Except.toOption, Option.map_some, Option.some.injEq,
              Prod.mk.injEq] at chosen
            rcases chosen with ⟨rfl, rfl⟩
            exact ⟨number, rfl, making⟩
    · cases made

/-- The fresh directory is made, under some name, at a place where nothing was. -/
theorem staged_of_makeStaging (rooted : ready.Rooted) (leads : ready.LeadsTo path parent)
    (made : makeStaging ready path spec = .ok (staging, staged)) :
    ∃ name, name ≠ "" ∧ staging = path.append [name] ∧ ready.FreshPlace path parent name ∧
      staged = ready.put (parent ++ [name]) .directory := by
  rcases of_makeStaging made with ⟨number, rfl, making⟩
  rcases makeDirectory_eq_ok_iff.mp making with ⟨place, found, absent, rfl⟩
  rcases leads.freshPlace rooted found absent with ⟨rfl, fresh⟩
  refine ⟨_, ?_, rfl, fresh, rfl⟩
  intro empty
  have dotted := congrArg String.toList empty
  simp at dotted

theorem fresh_of_makeStaging (rooted : ready.Rooted) (leads : ready.LeadsTo path parent)
    (made : makeStaging ready path spec = .ok (staging, staged)) :
    ∃ name, staging = path.append [name] ∧ ready.FreshPlace path parent name ∧
      Filling ready staged (parent ++ [name]) := by
  rcases staged_of_makeStaging rooted leads made with ⟨name, _, rfl, fresh, rfl⟩
  exact ⟨name, rfl, fresh, fresh.filling rooted⟩

/-! ## Installing -/

/-- The directories above a package are there, and a fresh one is made beside its place. -/
structure Stages (disk : Disk) (spec : PackageSpec) (target : HostPath) (ready : Disk)
    (staging : HostPath) (staged : Disk) : Prop where
  above : disk.ensureDirectories target.parent = (ready, none)
  beside : makeStaging ready target.parent spec = .ok (staging, staged)

/-- What keeps the installation of a package from ending well. -/
inductive InstallMishap (storage : PackageStorage) (disk : Disk) (spec : PackageSpec)
    (target : HostPath) (body : ArchiveData) : Prop
  | noParent {ready : Disk} {fault : DiskFault}
      (refused : disk.ensureDirectories target.parent = (ready, some fault))
  | noStaging {ready : Disk} {fault : DiskFault}
      (above : disk.ensureDirectories target.parent = (ready, none))
      (refused : makeStaging ready target.parent spec = .error fault)
  | breaks {ready staged : Disk} {staging : HostPath}
      (stages : Stages disk spec target ready staging staged)
      (breaks : storage.Breaks staged staging body)
  /-- The package's place held neither nothing nor a directory. -/
  | taken {ready staged unpacked : Disk} {staging : HostPath}
      (stages : Stages disk spec target ready staging staged)
      (unpacks : storage.unpack staged staging spec body = .value unpacked)
      (taken : ¬ready.HasRoom target)
  /-- The package's place is the one of the fresh directory, which is removed. -/
  | ownPlace {ready staged unpacked : Disk} {staging : HostPath}
      (stages : Stages disk spec target ready staging staged)
      (unpacks : storage.unpack staged staging spec body = .value unpacked)
      (same : staging = target)

/-- The installation of a package ends well at the package's place. -/
def InstallsWell (storage : PackageStorage) (disk : Disk) (spec : PackageSpec)
    (target : HostPath) (body : ArchiveData) : Prop :=
  EndsWell ((storage.install disk spec target body).2.map fun _ => target)
    (storage.install disk spec target body).1

theorem install_of_stages (stages : Stages disk spec target ready staging staged) :
    storage.install disk spec target body =
      match (storage.unpack staged staging spec body).andThen (publish · staging target) with
      | .value finished => (finished.remove staging, .value ())
      | .failed error => (staged.remove staging, .failed error)
      | .broken fault => (staged.remove staging, .broken fault) := by
  cases done : (storage.unpack staged staging spec body).andThen (publish · staging target) with
  | value | failed | broken => simp only [install, stages.above, stages.beside, done]

theorem publish_ne_failed (disk : Disk) (staging target : HostPath) (error : FileError) :
    publish disk staging target ≠ .failed error := by
  intro failed
  simp only [publish] at failed
  split at failed
  · cases failed
  · cases failed
  · split at failed
    · split at failed <;> cases failed
    · cases failed
    · cases failed

/-- Once the data is unpacked, the installation ends well when the package is published. -/
theorem installsWell_iff_published (stages : Stages disk spec target ready staging staged)
    (unpacks : storage.unpack staged staging spec body = .value unpacked) :
    storage.InstallsWell disk spec target body ↔
      ∃ finished, publish unpacked staging target = .value finished ∧
        (finished.remove staging).isDirectory target = .ok true := by
  rw [InstallsWell, install_of_stages stages, unpacks]
  simp only [Outcome.andThen]
  cases published : publish unpacked staging target with
  | value finished => simp [Outcome.map, Outcome.andThen, endsWell_value_iff]
  | failed error => exact absurd published (publish_ne_failed _ _ _ _)
  | broken fault => simp [Outcome.map, Outcome.andThen, not_endsWell_broken]

/-- An unpacked package takes its place when there is room for it beside the fresh directory. -/
theorem installsWell_of_unpack_iff (rooted : disk.Rooted)
    (stages : Stages disk spec (path.append [version]) ready staging staged)
    (unpacks : storage.unpack staged staging spec body = .value unpacked) :
    storage.InstallsWell disk spec (path.append [version]) body ↔
      ready.HasRoom (path.append [version]) ∧ staging ≠ path.append [version] := by
  have whole : ¬storage.Breaks staged staging body := by
    intro breaks
    rcases unpack_breaks breaks with ⟨fault, broken⟩
    cases unpacks.symm.trans broken
  have above := stages.above
  have beside := stages.beside
  have readyRooted := rooted.ensureDirectories (path.append [version]).parent
  rw [above] at readyRooted
  rw [HostPath.parent_append] at above beside
  rcases leadsTo_of_ensureDirectories above with ⟨parent, leads⟩
  rcases fresh_of_makeStaging readyRooted leads beside with ⟨name, rfl, fresh, filling⟩
  rw [installsWell_iff_published stages unpacks]
  rcases storage.unpack_cases staged (path.append [name]) spec whole with
    ⟨members, extracted, found, inside, extracts⟩ | ⟨error, failed, _⟩
  · rw [unpacks] at found
    cases found
    rw [publish_iff readyRooted fresh (filling.extract fresh inside extracts), ne_eq, ne_eq,
      HostPath.append_inj, List.singleton_inj]
  · cases unpacks.symm.trans failed

theorem installsWell_iff (storage : PackageStorage) (rooted : disk.Rooted) (spec : PackageSpec)
    (path : HostPath) (version : String) (body : ArchiveData) :
    storage.InstallsWell disk spec (path.append [version]) body ↔
      ¬storage.InstallMishap disk spec (path.append [version]) body := by
  constructor
  · intro well mishap
    cases mishap with
    | noParent refused =>
        simp only [InstallsWell, install, refused] at well
        exact not_endsWell_broken _ well
    | noStaging above refused =>
        simp only [InstallsWell, install, above, refused] at well
        exact not_endsWell_broken _ well
    | breaks stages breaks =>
        rcases unpack_breaks breaks with ⟨fault, broken⟩
        rw [InstallsWell, install_of_stages stages, broken] at well
        exact not_endsWell_broken _ well
    | taken stages unpacks taken =>
        exact taken ((installsWell_of_unpack_iff rooted stages unpacks).mp well).1
    | ownPlace stages unpacks same =>
        exact ((installsWell_of_unpack_iff rooted stages unpacks).mp well).2 same
  · intro smooth
    cases above : disk.ensureDirectories (path.append [version]).parent with
    | mk ready refused =>
        cases refused with
        | some fault => exact absurd (.noParent above) smooth
        | none =>
            cases beside : makeStaging ready (path.append [version]).parent spec with
            | error fault => exact absurd (.noStaging above beside) smooth
            | ok made =>
                have stages : Stages disk spec (path.append [version]) ready made.1 made.2 :=
                  ⟨above, beside⟩
                have whole : ¬storage.Breaks made.2 made.1 body :=
                  fun breaks => smooth (.breaks stages breaks)
                rcases storage.unpack_cases made.2 made.1 spec whole with
                  ⟨members, unpacked, unpacks, _⟩ | ⟨error, failed, ofPackage⟩
                · rw [installsWell_of_unpack_iff rooted stages unpacks]
                  refine ⟨?_, fun same => smooth (.ownPlace stages unpacks same)⟩
                  by_contra taken
                  exact smooth (.taken stages unpacks taken)
                · rw [InstallsWell, install_of_stages stages, failed]
                  exact endsWell_failed_iff.mpr ofPackage

end PackageStorage

end Typeset
