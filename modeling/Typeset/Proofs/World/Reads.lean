import Typeset.World
import Typeset.Proofs.FileCache.Keys
import Typeset.Proofs.Package

/-!
# Reading from disk

What a read gives, as long as the registry gives no answer, is determined by the
disk and by where project and packages lie. A read that breaks off because of a zero
character in a path does so every time; any other broken read is one of a package.
-/

namespace Typeset

/-- A file whose path within its package, if it is in one, has no zero character. -/
def FileId.Steady (id : FileId) : Prop :=
  ∀ spec, id.origin = .package spec → ∀ component ∈ id.path.components, '\x00' ∉ component.toList

/-- Two clocks that stand still alike, if they do, and take local time for the same. -/
structure Clock.SetAlike (left right : Clock) : Prop where
  fixed : left.fixed = right.fixed
  zone : left.zone = right.zone

namespace Clock.SetAlike

variable {first second third : Clock}

theorem refl (clock : Clock) : clock.SetAlike clock :=
  ⟨rfl, rfl⟩

theorem symm (alike : first.SetAlike second) : second.SetAlike first :=
  ⟨alike.fixed.symm, alike.zone.symm⟩

theorem trans (early : first.SetAlike second) (late : second.SetAlike third) :
    first.SetAlike third :=
  ⟨early.fixed.trans late.fixed, early.zone.trans late.zone⟩

end Clock.SetAlike

namespace World

def report (world : World) (records : Journal) : World :=
  { world with host := records.foldl Host.record world.host }

theorem run_forM_record (records : Journal) (world : World) :
    (records.forM World.record).run world = ((), world.report records) := by
  induction records generalizing world with
  | nil => rfl
  | cons record records ih => exact ih _

theorem disk_foldl_record (records : Journal) (host : Host) :
    (records.foldl Host.record host).disk = host.disk ∧
      (records.foldl Host.record host).responses = host.responses := by
  induction records generalizing host with
  | nil => exact ⟨rfl, rfl⟩
  | cons record records ih => exact ih _

@[simp]
theorem disk_report (world : World) (records : Journal) :
    (world.report records).host.disk = world.host.disk :=
  (disk_foldl_record records world.host).1

@[simp]
theorem responses_report (world : World) (records : Journal) :
    (world.report records).host.responses = world.host.responses :=
  (disk_foldl_record records world.host).2

def plainRoot (world : World) : FileOrigin → Outcome HostPath
  | .package spec => world.packages.offlineDirectory spec world.host.disk
  | _ => .value world.root

def plainPath (world : World) (id : FileId) : Outcome HostPath :=
  (world.plainRoot id.origin).andThen fun root =>
    match id.resolve root with
    | some path => .value path
    | none => .failed (.ofMessage .accessDenied "failed to load file (access denied)")

/-- What reading a file gives when the registry has no answer. -/
def plainRead (world : World) (id : FileId) : Outcome Bytes :=
  (world.plainPath id).andThen (readDisk world.host.disk)

/-- A file of the project that has a zero character in its path. -/
def Blocked (world : World) (id : FileId) : Prop :=
  id.origin = .project ∧ (world.root.append id.path.components).HasZero

theorem run_rootOf (origin : FileOrigin) (world : World) :
    ∃ host, ((rootOf origin).run world).2 = { world with host := host } ∧
      ((((rootOf origin).run world).1 = world.plainRoot origin ∧
        host.disk = world.host.disk ∧ host.responses = world.host.responses) ∨
      ∃ response, world.host.responses = response :: host.responses) := by
  cases origin with
  | package spec => exact ⟨_, rfl, world.packages.prepare_cases spec world.host⟩
  | project => exact ⟨world.host, rfl, .inl ⟨rfl, rfl, rfl⟩⟩
  | memory => exact ⟨world.host, rfl, .inl ⟨rfl, rfl, rfl⟩⟩

/-- A read takes an answer of the registry, or gives what is on disk and leaves it there. -/
theorem run_read (id : FileId) (world : World) :
    ∃ host, ((read id).run world).2 = { world with host := host } ∧
      ((((read id).run world).1 = world.plainRead id ∧
        host.disk = world.host.disk ∧ host.responses = world.host.responses) ∨
      ∃ response, world.host.responses = response :: host.responses) := by
  rcases run_rootOf id.origin world with ⟨host, moves, gives⟩
  have split : (read id).run world =
      let asked := (rootOf id.origin).run world
      ((asked.1.andThen fun root =>
          match id.resolve root with
          | some path => .value path
          | none =>
              .failed (.ofMessage .accessDenied "failed to load file (access denied)")).andThen
          (readDisk asked.2.host.disk), asked.2) := rfl
  rw [split]
  refine ⟨host, moves, ?_⟩
  rcases gives with ⟨root, disk, responses⟩ | taken
  · refine .inl ⟨?_, disk, responses⟩
    dsimp only
    rw [moves, root, plainRead, plainPath, ← disk]
  · exact .inr taken

theorem readDisk_broken_iff {disk : Disk} {path : HostPath} {fault : Fault} :
    readDisk disk path = .broken fault ↔
      path.HasZero ∧ fault = DiskFault.zeroInPath.toFault := by
  rw [← Disk.read_eq_zeroInPath_iff disk path, readDisk]
  cases disk.read path with
  | ok content => simp
  | error reason => cases reason <;> simp [DiskFault.toOutcome, eq_comm]

theorem plainRead_project (world : World) (path : VirtualPath) :
    world.plainRead ⟨.project, path⟩ =
      readDisk world.host.disk (world.root.append path.components) := rfl

theorem plainRead_package (world : World) (spec : PackageSpec) (path : VirtualPath) :
    world.plainRead ⟨.package spec, path⟩ =
      (world.packages.offlineDirectory spec world.host.disk).andThen fun directory =>
        readDisk world.host.disk (directory.append path.components) := by
  simp only [plainRead, plainPath, plainRoot]
  cases world.packages.offlineDirectory spec world.host.disk <;> rfl

/-- Apart from packages, only a zero character in its path makes a read break off. -/
theorem blocked_of_plainRead {world : World} {id : FileId} {message : String}
    (steady : id.Steady) (broken : world.plainRead id = .broken (.invalidValue message)) :
    world.Blocked id := by
  rcases id with ⟨origin, path⟩
  cases origin with
  | project => exact ⟨rfl, (readDisk_broken_iff.mp broken).1⟩
  | memory => cases broken
  | package spec =>
      simp only [plainRead_package] at broken
      cases located : world.packages.offlineDirectory spec world.host.disk with
      | value directory =>
          simp only [located] at broken
          have zero := (readDisk_broken_iff.mp broken).1
          exact absurd (HostPath.hasZero_of_append zero (steady spec rfl))
            (PackageStorage.not_hasZero_of_offlineDirectory located)
      | failed error =>
          simp only [located] at broken
          cases broken
      | broken fault =>
          simp only [located] at broken
          cases broken
          exact absurd located (PackageStorage.offlineDirectory_ne_broken_invalidValue _ _ _ _)

theorem run_read_of_blocked {world : World} {id : FileId} (blocked : world.Blocked id) :
    (read id).run world = (.broken DiskFault.zeroInPath.toFault, world) := by
  rcases id with ⟨origin, path⟩
  rcases blocked with ⟨same, zero⟩
  cases same
  have split : (read ⟨.project, path⟩).run world =
      (readDisk world.host.disk (world.root.append path.components), world) := rfl
  simp only [split, readDisk_broken_iff.mpr ⟨zero, rfl⟩]

/-! ## Worlds that look the same -/

/-- Everything that the answers of two worlds depend on is the same in both. -/
structure Agrees (left right : World) : Prop where
  root : left.root = right.root
  markup : left.markup = right.markup
  inputs : ∀ key, left.library.input? key = right.library.input? key
  files : ∀ path, left.overlay.find? path = right.overlay.find? path
  installed : left.packages.installed = right.packages.installed
  cache : left.packages.cache = right.packages.cache
  disk : left.host.disk.Alike right.host.disk
  clock : left.clock.SetAlike right.clock

theorem Agrees.plainRead {left right : World} (agree : left.Agrees right) (id : FileId) :
    left.plainRead id = right.plainRead id := by
  have reads (path : HostPath) : readDisk left.host.disk path = readDisk right.host.disk path := by
    simp only [readDisk, Disk.read_congr agree.disk]
  rcases id with ⟨origin, path⟩
  cases origin with
  | project => simp only [plainRead_project, agree.root, reads]
  | memory => rfl
  | package spec =>
      rw [plainRead_package, plainRead_package,
        PackageStorage.offlineDirectory_congr agree.installed agree.cache agree.disk]
      simp only [reads]

end World

end Typeset
