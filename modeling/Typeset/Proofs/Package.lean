import Typeset.Proofs.Disk
import Typeset.Proofs.Package.Download

/-!
# Packages without a registry

Looking for the directory of a package takes an answer from the registry, or leaves
the disk as it is and depends on nothing else. A directory that is found has no zero
character in its path.
-/

namespace Typeset.PackageStorage

/-- What is found is one of the paths, and there is a directory. -/
theorem found_of_findDirectory {disk : Disk} {paths : List HostPath} {path : HostPath}
    (found : findDirectory disk paths = .ok (some path)) :
    path ∈ paths ∧ disk.isDirectory path = .ok true := by
  induction paths with
  | nil => cases found
  | cons first rest ih =>
      simp only [findDirectory] at found
      cases looked : disk.isDirectory first with
      | error fault =>
          simp only [looked] at found
          cases found
      | ok isThere =>
          simp only [looked] at found
          cases isThere with
          | true =>
              cases found
              exact ⟨List.mem_cons_self, looked⟩
          | false =>
              rcases ih found with ⟨member, there⟩
              exact ⟨List.mem_cons_of_mem _ member, there⟩

theorem isDirectory_of_findDirectory {disk : Disk} {paths : List HostPath} {path : HostPath}
    (found : findDirectory disk paths = .ok (some path)) : disk.isDirectory path = .ok true :=
  (found_of_findDirectory found).2

theorem findDirectory_error {disk : Disk} {paths : List HostPath} {fault : DiskFault}
    (refused : findDirectory disk paths = .error fault) : fault = .nameTooLong := by
  induction paths with
  | nil => cases refused
  | cons path paths ih =>
      simp only [findDirectory] at refused
      cases looked : disk.isDirectory path with
      | error other =>
          simp only [looked, bind, Except.bind, Except.error.injEq] at refused
          exact refused ▸ Disk.isDirectory_error looked
      | ok isThere =>
          simp only [looked, bind, Except.bind] at refused
          cases isThere with
          | true => cases refused
          | false => exact ih refused

theorem findDirectory_congr {left right : Disk} (alike : left.Alike right)
    (paths : List HostPath) : findDirectory left paths = findDirectory right paths := by
  induction paths with
  | nil => rfl
  | cons first rest ih => simp only [findDirectory, Disk.isDirectory_congr alike, ih]

/-- The directory of a package when the registry has no answer. -/
def offlineDirectory (storage : PackageStorage) (spec : PackageSpec) (disk : Disk) :
    Outcome HostPath :=
  match findDirectory disk
      [storage.installed.append spec.directory, storage.cache.append spec.directory] with
  | .error fault => .broken fault.toFault
  | .ok (some path) => .value path
  | .ok none =>
      if spec.nameSpace ≠ downloadable then .failed (notFound spec)
      else .failed (notDownloaded spec "offline")

theorem offlineDirectory_congr {left right : PackageStorage} {leftDisk rightDisk : Disk}
    (installed : left.installed = right.installed) (cache : left.cache = right.cache)
    (alike : leftDisk.Alike rightDisk) (spec : PackageSpec) :
    left.offlineDirectory spec leftDisk = right.offlineDirectory spec rightDisk := by
  simp only [offlineDirectory, installed, cache, findDirectory_congr alike]

theorem not_hasZero_of_offlineDirectory {storage : PackageStorage} {spec : PackageSpec}
    {disk : Disk} {path : HostPath} (found : storage.offlineDirectory spec disk = .value path) :
    ¬path.HasZero := by
  simp only [offlineDirectory] at found
  split at found
  · cases found
  · next located =>
      cases found
      exact Disk.not_hasZero_of_isDirectory (isDirectory_of_findDirectory located)
  · split at found <;> cases found

theorem offlineDirectory_ne_broken_invalidValue (storage : PackageStorage) (spec : PackageSpec)
    (disk : Disk) (message : String) :
    storage.offlineDirectory spec disk ≠ .broken (.invalidValue message) := by
  intro broken
  simp only [offlineDirectory] at broken
  split at broken
  · next fault refused =>
      cases findDirectory_error refused
      cases broken
  · cases broken
  · split at broken <;> cases broken

/-- The registry gives the first answer that it has in store, or none at all. -/
theorem prepare_cases (storage : PackageStorage) (spec : PackageSpec) (host : Host) :
    ((storage.prepare spec host).1 = storage.offlineDirectory spec host.disk ∧
      (storage.prepare spec host).2.2.disk = host.disk ∧
      (storage.prepare spec host).2.2.responses = host.responses) ∨
    ∃ response, host.responses = response :: (storage.prepare spec host).2.2.responses := by
  simp only [prepare, offlineDirectory]
  cases findDirectory host.disk
      [storage.installed.append spec.directory, storage.cache.append spec.directory] with
  | error fault => exact .inl ⟨rfl, rfl, rfl⟩
  | ok found =>
      cases found with
      | some path => exact .inl ⟨rfl, rfl, rfl⟩
      | none =>
          by_cases foreign : spec.nameSpace ≠ downloadable
          · rw [if_pos foreign, if_pos foreign]
            exact .inl ⟨rfl, rfl, rfl⟩
          · rw [if_neg foreign, if_neg foreign]
            dsimp only
            generalize told : host.record _ = sender
            have disk : sender.disk = host.disk := by rw [← told]; rfl
            have responses : sender.responses = host.responses := by rw [← told]; rfl
            rw [← disk, ← responses]
            cases stored : sender.responses with
            | nil =>
                rw [download_of_no_responses stored]
                exact .inl ⟨rfl, rfl, stored⟩
            | cons response later =>
                have taken := (downloads spec (spec.archiveUrl storage.registry) sender).responses
                rw [stored] at taken
                generalize download spec (spec.archiveUrl storage.registry) sender = done at taken ⊢
                rcases done with ⟨outcome, events, after⟩
                cases outcome <;> exact .inr ⟨response, congrArg _ taken.symm⟩

end Typeset.PackageStorage
