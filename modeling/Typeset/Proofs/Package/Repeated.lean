import Typeset.Proofs.Package.Calls

/-!
# Calls that prepare packages, one after another

Whatever calls come in whatever order, each finds the package or asks for it once, and leaves
a package at its place as a whole or not at all. A package that is there is found by every
later call. After a call that raised, the next one asks again, unless others have brought the
package, or one of the directories that were made completes a way to a directory of the
package: the call looks along links, and these may lead to what another call has made.
-/

namespace Typeset.PackageStorage

open Disk

variable {storage : PackageStorage} {spec : PackageSpec} {host : Host} {status : Nat}
  {body : ArchiveData} {planted : List (HostPath × DiskEntry)}

/-! ## One call -/

/-- The machine after a call. -/
def leaves (storage : PackageStorage) (spec : PackageSpec) (host : Host) : Host :=
  (storage.prepare spec host).2.2

/-- A call gives no directory. -/
def Raises (storage : PackageStorage) (spec : PackageSpec) (host : Host) : Prop :=
  ∀ path, (storage.prepare spec host).1 ≠ .value path

/-- A call asks for nothing. -/
def Quiet (storage : PackageStorage) (spec : PackageSpec) (host : Host) : Prop :=
  (storage.leaves spec host).requests = host.requests

/-- A call asks for the archive of its package. -/
def Asks (storage : PackageStorage) (spec : PackageSpec) (host : Host) : Prop :=
  (storage.leaves spec host).requests = host.requests ++ [spec.archiveUrl storage.registry]

/-- A call finds the package at a path, and changes nothing. -/
structure Finds (storage : PackageStorage) (spec : PackageSpec) (host : Host) (path : HostPath) :
    Prop where
  answer : (storage.prepare spec host).1 = .value path
  disk : (storage.leaves spec host).disk = host.disk
  quiet : storage.Quiet spec host

theorem prepares_leaves (storage : PackageStorage) (spec : PackageSpec) (host : Host) :
    Prepares storage spec host (storage.prepare spec host).1 (storage.leaves spec host) :=
  storage.prepares spec host

theorem finds_of_findDirectory {path : HostPath}
    (looked : findDirectory host.disk (storage.places spec) = .ok (some path)) :
    storage.Finds spec host path := by
  simp only [places] at looked
  refine ⟨?_, ?_, ?_⟩ <;> simp only [Quiet, leaves, prepare, looked] <;> rfl

theorem asks_iff_fetches : storage.Asks spec host ↔ Fetches storage spec host := by
  have call := storage.prepares_leaves spec host
  constructor
  · intro asks
    rcases call.requests with quiet | ⟨_, fetches⟩
    · simp [Asks, quiet] at asks
    · exact fetches
  · intro fetches
    rw [Asks]
    generalize (storage.prepare spec host).1 = outcome at call
    generalize storage.leaves spec host = left at call ⊢
    cases call with
    | refused looked => cases looked.symm.trans fetches.missing
    | found looked => cases looked.symm.trans fetches.missing
    | unknown _ foreign => exact absurd fetches.offered foreign
    | undownloaded _ requests => exact requests
    | downloaded _ requests => exact requests

/-- A call asks for a package on offer exactly when it is at none of its places. -/
theorem asks_iff (offered : spec.nameSpace = downloadable) :
    storage.Asks spec host ↔
      ∀ path ∈ storage.places spec, host.disk.isDirectory path = .ok false := by
  rw [asks_iff_fetches, ← findDirectory_eq_none_iff]
  exact ⟨fun fetches => fetches.missing, fun missing => ⟨missing, offered⟩⟩

theorem fetches_of_missing (offered : spec.nameSpace = downloadable)
    (uninstalled : host.disk.locate (storage.installed.append spec.directory) ⟨true, false⟩ =
      .error .notFound)
    (uncached : host.disk.locate (storage.cachePlace spec) ⟨true, false⟩ = .error .notFound) :
    Fetches storage spec host := by
  refine ⟨findDirectory_eq_none_iff.mpr ?_, offered⟩
  intro path member
  rcases List.mem_cons.mp member with rfl | last
  · exact isDirectory_of_missing uninstalled
  · rw [List.mem_singleton.mp last]
    exact isDirectory_of_missing uncached

/-- Nobody else works on the disk while the next answer is read. -/
def Undisturbed (host : Host) : Prop :=
  ∀ response, host.responses.head? = some response → response.planted = []

theorem Undisturbed.eq_nil (undisturbed : Undisturbed host) (meets : host.Meets planted) :
    planted = [] := by
  rcases meets with rfl | ⟨response, first, rfl⟩
  · rfl
  · exact undisturbed response first

/-- After a call that raised, with the directory above made before, the next call asks again. -/
theorem asks_again (rooted : host.disk.Rooted) (raises : storage.Raises spec host)
    (asks : storage.Asks spec host) (undisturbed : Undisturbed host)
    (above : host.disk.isDirectory (storage.cachePlace spec).parent = .ok true) :
    storage.Asks spec (storage.leaves spec host) := by
  rcases (storage.prepares_leaves spec host).whole_or_nothing rooted with
    ⟨planted, meets, nothing | ⟨⟨path, gives⟩, _⟩⟩
  · cases undisturbed.eq_nil meets
    have same := nothing.settled above
    have offered := (asks_iff_fetches.mp asks).offered
    refine (asks_iff offered).mpr fun path member => ?_
    rw [isDirectory_congr same]
    exact (asks_iff offered).mp asks path member
  · exact absurd gives (raises path)

/--
The places of a package have plain names, and the one in the directory of installed packages is
none of the directories above the one in the cache.
-/
structure PlainPlaces (storage : PackageStorage) (spec : PackageSpec) : Prop where
  nameable : ∀ path ∈ storage.places spec, ∀ name ∈ path.components, Nameable name
  aside : ¬(storage.installed.append spec.directory).components <+:
    (storage.cachePlace spec).parent.components

theorem PlainPlaces.not_above (plain : storage.PlainPlaces spec) :
    ∀ path ∈ storage.places spec,
      ¬path.components <+: (storage.cachePlace spec).parent.components := by
  intro path member
  rcases List.mem_cons.mp member with rfl | last
  · exact plain.aside
  · rw [List.mem_singleton.mp last]
    intro above
    have shorter := above.length_le
    simp only [cachePlace, HostPath.parent, HostPath.append, PackageSpec.directory,
      List.length_dropLast, List.length_append, List.length_cons, List.length_nil] at shorter
    omega

/-- After a call that raised on a disk without links, the next call asks again. -/
theorem asks_again_without_links (rooted : host.disk.Rooted) (raises : storage.Raises spec host)
    (asks : storage.Asks spec host) (undisturbed : Undisturbed host)
    (free : host.disk.LinkFree) (plain : storage.PlainPlaces spec) :
    storage.Asks spec (storage.leaves spec host) := by
  rcases (storage.prepares_leaves spec host).whole_or_nothing rooted with
    ⟨planted, meets, nothing | ⟨⟨path, gives⟩, _⟩⟩
  · cases undisturbed.eq_nil meets
    have offered := (asks_iff_fetches.mp asks).offered
    have missing := (asks_iff offered).mp asks
    refine (asks_iff offered).mpr fun path member => ?_
    rcases nothing.directories with alike | alike
    · rw [isDirectory_congr alike]
      exact missing path member
    · rw [isDirectory_congr alike]
      have plainParent : ".." ∉ (storage.cachePlace spec).parent.components := by
        intro up
        have named := plain.nameable (storage.cachePlace spec) (by simp [places, cachePlace])
        exact plain_of_nameable named (List.dropLast_subset _ up)
      have adds := addsAlong_ensureDirectoriesFrom rooted _ plainParent
        (storage.cachePlace spec).parent.components.length
      exact adds.isDirectory_eq_false free rooted (rooted.ensureDirectories _) plainParent
        (plain.nameable path member) (plain.not_above path member) (missing path member)
  · exact absurd gives (raises path)

/-- A body that is no archive makes a call raise when the directories above are made. -/
theorem damaged_leaves {damage : ArchiveData.Damage} (rooted : host.disk.Rooted)
    (fetches : Fetches storage spec host)
    (answer : host.responses.head? = some (.reply status none body planted none))
    (good : status < 400) (damaged : body.open? = .error damage) :
    storage.Raises spec host ∧
      (storage.leaves spec host).disk.Alike
        (storage.madeReady spec (host.disk.plantAll planted)) := by
  have given : (storage.announced spec host).responses.head? = _ := answer
  rcases download_of_readable given good (fun _ announced => nomatch announced) spec
    (spec.archiveUrl storage.registry) with ⟨downloaded, left⟩
  rcases prepare_of_body fetches downloaded left with ⟨outcome, disk⟩
  have refused := install_ne_value_of_damaged damaged storage (host.disk.plantAll planted) spec
    (storage.cachePlace spec)
  have raises : storage.Raises spec host := by
    intro path gives
    have mapped := outcome.symm.trans gives
    change (storage.install (host.disk.plantAll planted) spec
      (storage.cachePlace spec) body).2.map _ = _ at mapped
    generalize (storage.install (host.disk.plantAll planted) spec
      (storage.cachePlace spec) body).2 = result at mapped refused
    cases result with
    | value => exact refused rfl
    | failed | broken => cases mapped
  refine ⟨raises, ?_⟩
  rw [leaves, disk]
  rcases installation_leaves (rooted.plantAll planted) storage spec body with alike | ⟨done, _⟩
  · exact alike
  · exact absurd done refused

/-! ## Many calls -/

/-- The machine after calls for some packages. -/
def afterCalls (storage : PackageStorage) (host : Host) (specs : List PackageSpec) : Host :=
  specs.foldl (fun host spec => storage.leaves spec host) host

theorem rooted_afterCalls (storage : PackageStorage) {host : Host} (rooted : host.disk.Rooted)
    (specs : List PackageSpec) : (storage.afterCalls host specs).disk.Rooted := by
  induction specs generalizing host with
  | nil => exact rooted
  | cons spec specs ih => exact ih ((storage.prepares_leaves spec host).rooted rooted)

/-- Calls let the disk grow, as long as others put no links on it. -/
theorem grows_afterCalls (storage : PackageStorage) {host : Host} (rooted : host.disk.Rooted)
    (noLinks : PlantsNoLinks host) (specs : List PackageSpec) :
    host.disk.Grows (storage.afterCalls host specs).disk := by
  induction specs generalizing host with
  | nil => exact .refl _
  | cons spec specs ih =>
      have call := storage.prepares_leaves spec host
      have still : PlantsNoLinks (storage.leaves spec host) :=
        fun response member => noLinks response (call.responses response member)
      exact (call.grows rooted noLinks).trans (ih (call.rooted rooted) still)

/-- A package that is at its place is not asked for again, whatever calls come between. -/
theorem quiet_afterCalls (rooted : host.disk.Rooted) (noLinks : PlantsNoLinks host)
    (there : host.disk.isDirectory (storage.cachePlace spec) = .ok true)
    (specs : List PackageSpec) : storage.Quiet spec (storage.afterCalls host specs) := by
  have found := isDirectory_of_grows there (grows_afterCalls storage rooted noLinks specs)
  rcases (storage.prepares_leaves spec (storage.afterCalls host specs)).requests with
    quiet | ⟨_, fetches⟩
  · exact quiet
  · have missing := findDirectory_eq_none_iff.mp fetches.missing (storage.cachePlace spec)
      (List.mem_cons_of_mem _ (List.mem_singleton_self _))
    cases missing.symm.trans found

/-! ## What every call keeps to -/

/-- A call brings a package as a whole or not at all; what others put on the disk is aside. -/
structure AllOrNothing (storage : PackageStorage) (spec : PackageSpec) (host : Host)
    (planted : List (HostPath × DiskEntry)) : Prop where
  raised : storage.Raises spec host →
    LeavesNothing storage spec (host.disk.plantAll planted) (storage.leaves spec host).disk
  brought : Brings storage spec (host.disk.plantAll planted) (storage.leaves spec host).disk →
    BringsWhole storage spec host planted (storage.leaves spec host).disk
  otherwise :
    LeavesNothing storage spec (host.disk.plantAll planted) (storage.leaves spec host).disk ∨
      BringsWhole storage spec host planted (storage.leaves spec host).disk

theorem all_or_nothing (storage : PackageStorage) (spec : PackageSpec)
    (rooted : host.disk.Rooted) :
    ∃ planted, host.Meets planted ∧ storage.AllOrNothing spec host planted := by
  rcases (storage.prepares_leaves spec host).whole_or_nothing rooted with
    ⟨planted, meets, nothing | ⟨⟨path, gives⟩, whole⟩⟩
  · exact ⟨planted, meets, fun _ => nothing, fun brings => absurd brings nothing.not_brings,
      .inl nothing⟩
  · exact ⟨planted, meets, fun raises => absurd gives (raises path), fun _ => whole, .inr whole⟩

/-- What a call keeps to. -/
structure KeepsWhole (storage : PackageStorage) (spec : PackageSpec) (host : Host) : Prop where
  /-- An installed package is found. -/
  installed : host.disk.isDirectory (storage.installed.append spec.directory) = .ok true →
    storage.Finds spec host (storage.installed.append spec.directory)
  /-- A package that is in the cache and not installed is found. -/
  cached : host.disk.isDirectory (storage.installed.append spec.directory) = .ok false →
    host.disk.isDirectory (storage.cachePlace spec) = .ok true →
    storage.Finds spec host (storage.cachePlace spec)
  /-- A call asks for its own archive, once at most. -/
  asks : storage.Quiet spec host ∨ storage.Asks spec host ∧ spec.nameSpace = downloadable
  atomic : ∃ planted, host.Meets planted ∧ storage.AllOrNothing spec host planted
  /-- After a call that asked and raised, the next one asks exactly if the package is nowhere. -/
  again : storage.Raises spec host → storage.Asks spec host →
    (storage.Asks spec (storage.leaves spec host) ↔
      ∀ path ∈ storage.places spec, (storage.leaves spec host).disk.isDirectory path = .ok false)
  /-- The package is nowhere if the directory above was there and nobody else put any. -/
  settled : storage.Raises spec host → storage.Asks spec host → Undisturbed host →
    host.disk.isDirectory (storage.cachePlace spec).parent = .ok true →
    storage.Asks spec (storage.leaves spec host)
  /-- It is also nowhere if there are no links on the disk, whatever directories are missing. -/
  unlinked : storage.Raises spec host → storage.Asks spec host → Undisturbed host →
    host.disk.LinkFree → storage.PlainPlaces spec → storage.Asks spec (storage.leaves spec host)
  /-- No call puts a link on the disk. -/
  linkFree : host.disk.LinkFree → PlantsNoLinks host → (storage.leaves spec host).disk.LinkFree
  /-- A package that is at its place afterwards is not asked for again. -/
  kept : (storage.leaves spec host).disk.isDirectory (storage.cachePlace spec) = .ok true →
    PlantsNoLinks (storage.leaves spec host) →
    ∀ later, storage.Quiet spec (storage.afterCalls (storage.leaves spec host) later)

/-- Whatever calls come before it, a call brings a package as a whole or not at all. -/
theorem calls_install_atomically (storage : PackageStorage) {start : Host}
    (rooted : start.disk.Rooted) (earlier : List PackageSpec) (spec : PackageSpec) :
    storage.KeepsWhole spec (storage.afterCalls start earlier) := by
  have still := rooted_afterCalls storage rooted earlier
  generalize storage.afterCalls start earlier = host at still
  have call := storage.prepares_leaves spec host
  refine ⟨?_, ?_, ?_, all_or_nothing storage spec still, ?_, ?_, ?_, ?_, ?_⟩
  · intro there
    apply finds_of_findDirectory
    simp only [places, findDirectory, there]
    rfl
  · intro missing there
    apply finds_of_findDirectory
    simp only [cachePlace] at there
    simp only [places, findDirectory, missing, there]
    rfl
  · exact call.requests.imp_right fun asked => ⟨asked.1, asked.2.offered⟩
  · intro _ asks
    exact asks_iff (asks_iff_fetches.mp asks).offered
  · exact asks_again still
  · exact asks_again_without_links still
  · exact call.linkFree still
  · intro there noLinks later
    exact quiet_afterCalls (call.rooted still) noLinks there later

/-- A storage below the working directory. -/
def nearby : PackageStorage :=
  ⟨⟨.relative, ["packages"]⟩, ⟨.relative, ["cache"]⟩, "https://registry.test", false⟩

/-- A package on offer. -/
def offered : PackageSpec :=
  ⟨"preview", "demo", "0.1.0"⟩

/-- A machine with a disk, to which the registry sends data that is no archive. -/
def sentJunk (disk : Disk) : Host :=
  ⟨disk, [.reply 200 none (.chunks [[0x6A, 0x75, 0x6E, 0x6B]]) []], [], []⟩

theorem walkable_installed : (nearby.installed.append offered.directory).Walkable :=
  ⟨by decide, by decide, rfl⟩

theorem walkable_cachePlace : (nearby.cachePlace offered).Walkable :=
  ⟨by decide, by decide, rfl⟩

theorem fetches_empty : Fetches nearby offered (sentJunk .empty) := by
  refine ⟨findDirectory_eq_none_iff.mpr ?_, rfl⟩
  intro path member
  rcases List.mem_cons.mp member with rfl | last
  · exact isDirectory_empty walkable_installed rfl ⟨by decide, by decide⟩
  · rw [List.mem_singleton.mp last]
    exact isDirectory_empty walkable_cachePlace rfl ⟨by decide, by decide⟩

theorem plainPlaces_nearby : nearby.PlainPlaces offered where
  nameable := by
    have short : ∀ path ∈ nearby.places offered, ∀ name ∈ path.components,
        name ≠ ".." ∧ Text.Utf8.length name.toList ≤ maxNameLength := by
      decide
    exact fun path listed name member =>
      ⟨(short path listed name member).1, (short path listed name member).2⟩
  aside := by decide

/-- After a call that got no archive for an empty disk, the next call asks again. -/
theorem asks_again_after_junk :
    Disk.empty.Rooted ∧ nearby.Raises offered (sentJunk .empty) ∧
      nearby.Asks offered (sentJunk .empty) ∧
      nearby.Asks offered (nearby.leaves offered (sentJunk .empty)) := by
  have keeps := calls_install_atomically nearby
    (show (sentJunk .empty).disk.Rooted from rooted_empty) [] offered
  have raises := (damaged_leaves rooted_empty fetches_empty rfl (by decide) rfl).1
  have asks := asks_iff_fetches.mpr fetches_empty
  refine ⟨rooted_empty, raises, asks, ?_⟩
  refine keeps.unlinked raises asks ?_ linkFree_empty plainPlaces_nearby
  intro response first
  cases first
  rfl

/--
A disk where the place of an installed package is a link to a directory above the package's
place in the cache, which is missing.
-/
def dangling : Disk :=
  ⟨[(["packages"], .directory), (["packages", "preview"], .directory),
    (["packages", "preview", "demo"], .directory),
    (["packages", "preview", "demo", "0.1.0"],
      .link ⟨.relative, ["..", "..", "..", "cache", "preview", "demo"]⟩),
    (["cache"], .directory), (["cache", "preview"], .directory)]⟩

/-- The disk when the missing directory is made. -/
def revived : Disk :=
  dangling.put ["cache", "preview", "demo"] .directory

theorem rooted_dangling : dangling.Rooted :=
  rooted_of_entries (by simp [dangling, Disk.entry?])

/-- The way to the installed package leads through its link to the end of the link's path. -/
theorem locate_installed {disk : Disk} (grows : dangling.Grows disk) :
    disk.locate (nearby.installed.append offered.directory) ⟨true, false⟩ =
      disk.follow ⟨true, false⟩ 39 ["cache", "preview"] ["demo"] := by
  rw [locate_of_walkable walkable_installed]
  change disk.follow _ (39 + 1) [] ["packages", "preview", "demo", "0.1.0"] = _
  rw [follow_into ⟨by decide, by decide⟩ (grows.directories ["packages"] rfl),
    follow_into ⟨by decide, by decide⟩ (grows.directories ["packages", "preview"] rfl),
    follow_into ⟨by decide, by decide⟩ (grows.directories ["packages", "preview", "demo"] rfl),
    follow_through ⟨by decide, by decide⟩
      (grows.links ["packages", "preview", "demo", "0.1.0"] _ rfl) (fun _ => rfl) rfl]
  change disk.follow _ 39 ["packages", "preview", "demo"]
    ["..", "..", "..", "cache", "preview", "demo"] = _
  rw [follow_up (by decide), follow_up (by decide), follow_up (by decide)]
  change disk.follow _ 39 [] ["cache", "preview", "demo"] = _
  rw [follow_into ⟨by decide, by decide⟩ (grows.directories ["cache"] rfl),
    follow_into ⟨by decide, by decide⟩ (grows.directories ["cache", "preview"] rfl)]
  rfl

theorem fetches_dangling : Fetches nearby offered (sentJunk dangling) := by
  apply fetches_of_missing rfl
  · change dangling.locate _ _ = _
    rw [locate_installed (.refl _), follow_missing ⟨by decide, by decide⟩ rfl rfl]
  · rw [locate_of_walkable walkable_cachePlace]
    change dangling.follow _ _ [] ["cache", "preview", "demo", "0.1.0"] = _
    rw [follow_into ⟨by decide, by decide⟩ rfl, follow_into ⟨by decide, by decide⟩ rfl,
      follow_missing ⟨by decide, by decide⟩ rfl rfl]

theorem madeReady_dangling : nearby.madeReady offered dangling = revived := by
  have making : dangling.makeDirectory ⟨.relative, ["cache", "preview", "demo"]⟩ = .ok revived := by
    refine makeDirectory_eq_ok_iff.mpr ⟨["cache", "preview", "demo"], ?_, rfl, rfl⟩
    rw [locate_of_walkable ⟨by decide, by decide, rfl⟩]
    exact follow_of_arrives (.into ⟨by decide, by decide⟩ rfl (.into ⟨by decide, by decide⟩ rfl
      (.atMissing ⟨by decide, by decide⟩ rfl rfl)))
  change (dangling.ensureDirectories ⟨.relative, ["cache", "preview", "demo"]⟩).1 = _
  rw [ensureDirectories_of_makeDirectory making]

/-- A call that raised revives a link, so that the next call finds a package. -/
theorem revived_link_answers_next_call :
    dangling.Rooted ∧ nearby.Raises offered (sentJunk dangling) ∧
      nearby.Asks offered (sentJunk dangling) ∧
      nearby.Finds offered (nearby.leaves offered (sentJunk dangling))
        (nearby.installed.append offered.directory) ∧
      ¬nearby.Asks offered (nearby.leaves offered (sentJunk dangling)) := by
  rcases damaged_leaves rooted_dangling fetches_dangling rfl (by decide) rfl with ⟨raises, alike⟩
  rw [show (sentJunk dangling).disk.plantAll [] = dangling from rfl, madeReady_dangling] at alike
  have there : revived.isDirectory (nearby.installed.append offered.directory) = .ok true := by
    have grows : dangling.Grows revived := .put_absent rfl _
    refine isDirectory_eq_true_iff.mpr ⟨["cache", "preview", "demo"], ?_, rfl⟩
    rw [locate_installed grows, follow_into ⟨by decide, by decide⟩ rfl, follow]
    rfl
  have finds : nearby.Finds offered (nearby.leaves offered (sentJunk dangling))
      (nearby.installed.append offered.directory) := by
    apply finds_of_findDirectory
    simp only [places, findDirectory, isDirectory_congr alike, there]
    rfl
  refine ⟨rooted_dangling, raises, asks_iff_fetches.mpr fetches_dangling, finds, ?_⟩
  rw [Asks, finds.quiet]
  simp

end Typeset.PackageStorage
