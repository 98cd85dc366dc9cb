import Typeset.Proofs.Package.Atomicity
import Typeset.Proofs.Package.Preparation

/-!
# One call that prepares a package

A call finds a package, or makes one request for it and installs what it gets. It brings
the whole package to its place and changes nothing else, or it leaves the disk as others
made it, but for directories above the package's place.
-/

namespace Typeset.PackageStorage

open Disk

variable {storage : PackageStorage} {spec : PackageSpec} {host left : Host}
  {outcome : Outcome HostPath}

/-- Where a package goes when it is fetched. -/
def cachePlace (storage : PackageStorage) (spec : PackageSpec) : HostPath :=
  storage.cache.append spec.directory

/-- The disk when the directories above a package's place are made. -/
def madeReady (storage : PackageStorage) (spec : PackageSpec) (disk : Disk) : Disk :=
  (disk.ensureDirectories (storage.cachePlace spec).parent).1

/-- What a call gives and leaves. -/
inductive Prepares (storage : PackageStorage) (spec : PackageSpec) (host : Host) :
    Outcome HostPath → Host → Prop
  | refused {fault : DiskFault}
      (looked : findDirectory host.disk (storage.places spec) = .error fault) :
      Prepares storage spec host (.broken fault.toFault) host
  | found {path : HostPath} {left : Host}
      (looked : findDirectory host.disk (storage.places spec) = .ok (some path))
      (disk : left.disk = host.disk) (requests : left.requests = host.requests)
      (responses : left.responses = host.responses) :
      Prepares storage spec host (.value path) left
  | unknown (looked : findDirectory host.disk (storage.places spec) = .ok none)
      (foreign : spec.nameSpace ≠ downloadable) :
      Prepares storage spec host (.failed (notFound spec)) host
  | undownloaded {outcome : Outcome HostPath} {left : Host}
      {planted : List (HostPath × DiskEntry)} (fetches : Fetches storage spec host)
      (requests : left.requests = host.requests ++ [spec.archiveUrl storage.registry])
      (responses : left.responses = host.responses.tail)
      (meets : host.Meets planted) (disk : left.disk = host.disk.plantAll planted)
      (empty : ∀ path, outcome ≠ .value path) : Prepares storage spec host outcome left
  | downloaded {status : Nat} {length : Option String} {body : ArchiveData} {left : Host}
      {planted : List (HostPath × DiskEntry)} (fetches : Fetches storage spec host)
      (requests : left.requests = host.requests ++ [spec.archiveUrl storage.registry])
      (responses : left.responses = host.responses.tail)
      (answer : host.responses.head? = some (.reply status length body planted none))
      (disk : left.disk =
        (storage.install (host.disk.plantAll planted) spec (storage.cachePlace spec) body).1) :
      Prepares storage spec host
        ((storage.install (host.disk.plantAll planted) spec (storage.cachePlace spec) body).2.map
          fun _ => storage.cachePlace spec) left

/-- Every call is one of these. -/
theorem prepares (storage : PackageStorage) (spec : PackageSpec) (host : Host) :
    Prepares storage spec host (storage.prepare spec host).1 (storage.prepare spec host).2.2 := by
  cases looked : findDirectory host.disk (storage.places spec) with
  | error fault =>
      have refused := looked
      simp only [places] at refused
      simp only [prepare, refused]
      exact .refused looked
  | ok answer =>
      cases answer with
      | some path =>
          have found := looked
          simp only [places] at found
          simp only [prepare, found]
          exact .found looked rfl rfl rfl
      | none =>
          by_cases offered : spec.nameSpace = downloadable
          · have fetches : Fetches storage spec host := ⟨looked, offered⟩
            have got :=
              downloads spec (spec.archiveUrl storage.registry) (storage.announced spec host)
            rw [prepare_of_fetches fetches]
            generalize
              download spec (spec.archiveUrl storage.registry) (storage.announced spec host) = done
              at got ⊢
            rcases done with ⟨result, events, left⟩
            rcases got with ⟨requests, responses, ends⟩
            cases ends with
            | failed _ meets disk =>
                exact .undownloaded fetches requests responses meets disk (by simp)
            | unreadable _ _ _ disk =>
                exact .undownloaded fetches requests responses (.inl rfl) disk (by simp)
            | whole answer _ _ disk =>
                dsimp only at disk ⊢
                rw [disk]
                exact .downloaded fetches requests responses answer rfl
          · have missing := looked
            simp only [places] at missing
            simp only [prepare, missing]
            rw [if_pos offered]
            exact .unknown looked offered

/-- What a call gives is one of the two places that a package can have. -/
theorem Prepares.mem_places (prepares : Prepares storage spec host outcome left)
    {path : HostPath} (given : outcome = .value path) : path ∈ storage.places spec := by
  cases prepares with
  | refused => cases given
  | found looked =>
      cases given
      exact (found_of_findDirectory looked).1
  | unknown => cases given
  | undownloaded _ _ _ _ _ empty => exact absurd given (empty path)
  | downloaded =>
      generalize (storage.install _ _ _ _).2 = installed at given
      cases installed with
      | value _ =>
          cases given
          simp [places, cachePlace]
      | failed error => cases given
      | broken fault => cases given

/-- A call asks for its own archive, once at most and only if it is on offer. -/
theorem Prepares.requests (prepares : Prepares storage spec host outcome left) :
    left.requests = host.requests ∨
      left.requests = host.requests ++ [spec.archiveUrl storage.registry] ∧
        Fetches storage spec host := by
  cases prepares with
  | refused | unknown => exact .inl rfl
  | found _ _ requests => exact .inl requests
  | undownloaded fetches requests => exact .inr ⟨requests, fetches⟩
  | downloaded fetches requests => exact .inr ⟨requests, fetches⟩

theorem Prepares.responses (prepares : Prepares storage spec host outcome left) :
    ∀ response ∈ left.responses, response ∈ host.responses := by
  intro response member
  cases prepares with
  | refused | unknown => exact member
  | found _ _ _ responses => rwa [responses] at member
  | undownloaded _ _ responses => exact List.mem_of_mem_tail (responses ▸ member)
  | downloaded _ _ responses => exact List.mem_of_mem_tail (responses ▸ member)

theorem findDirectory_eq_none_iff {disk : Disk} {paths : List HostPath} :
    findDirectory disk paths = .ok none ↔ ∀ path ∈ paths, disk.isDirectory path = .ok false := by
  induction paths with
  | nil => simp [findDirectory]
  | cons path paths ih =>
      rw [List.forall_mem_cons, ← ih, findDirectory]
      cases disk.isDirectory path with
      | error fault => simp [bind, Except.bind]
      | ok found => cases found <;> simp [bind, Except.bind, pure, Except.pure]

/-! ## The disk after a call -/

/-- Nothing that others put on the disk is a link. -/
def PlantsNoLinks (host : Host) : Prop :=
  ∀ response ∈ host.responses, ∀ planted ∈ response.planted, ∀ target, planted.2 ≠ .link target

theorem noLinks_of_meets (noLinks : PlantsNoLinks host)
    {planted : List (HostPath × DiskEntry)} (meets : host.Meets planted) :
    ∀ entry ∈ planted, ∀ target, entry.2 ≠ .link target := by
  rcases meets with rfl | ⟨response, first, rfl⟩
  · simp
  · exact noLinks response (List.mem_of_head? first)

theorem cachePlace_eq (storage : PackageStorage) (spec : PackageSpec) :
    storage.cachePlace spec =
      (storage.cache.append [spec.nameSpace, spec.name]).append [spec.version] :=
  append_directory storage.cache spec

theorem installation_leaves {disk : Disk} (rooted : disk.Rooted) (storage : PackageStorage)
    (spec : PackageSpec) (body : ArchiveData) :
    (storage.install disk spec (storage.cachePlace spec) body).1.Alike
        (storage.madeReady spec disk) ∨
      (storage.install disk spec (storage.cachePlace spec) body).2 = .value () ∧
        ∃ members place, body.open? = .ok members ∧
          Placed (storage.madeReady spec disk)
            (storage.install disk spec (storage.cachePlace spec) body).1 (storage.cachePlace spec)
            place members := by
  rw [madeReady, cachePlace_eq, HostPath.parent_append]
  exact storage.install_leaves rooted spec _ _ body

theorem Prepares.rooted (prepares : Prepares storage spec host outcome left)
    (rooted : host.disk.Rooted) : left.disk.Rooted := by
  cases prepares with
  | refused | unknown => exact rooted
  | found _ disk => rwa [disk]
  | undownloaded _ _ _ _ disk =>
      rw [disk]
      exact rooted.plantAll _
  | downloaded _ _ _ _ disk =>
      rw [disk, cachePlace_eq]
      exact storage.rooted_install (rooted.plantAll _) spec _ _ _

theorem Prepares.linkFree (prepares : Prepares storage spec host outcome left)
    (rooted : host.disk.Rooted) (free : host.disk.LinkFree) (noLinks : PlantsNoLinks host) :
    left.disk.LinkFree := by
  cases prepares with
  | refused | unknown => exact free
  | found _ disk => rwa [disk]
  | undownloaded _ _ _ meets disk =>
      rw [disk]
      exact free.plantAll (noLinks_of_meets noLinks meets)
  | downloaded _ _ _ answer disk =>
      rw [disk, cachePlace_eq]
      have still := free.plantAll (noLinks_of_meets noLinks (Host.meets_of_answer answer))
      exact storage.linkFree_install (rooted.plantAll _) still spec _ _ _

theorem Prepares.grows (prepares : Prepares storage spec host outcome left)
    (rooted : host.disk.Rooted) (noLinks : PlantsNoLinks host) : host.disk.Grows left.disk := by
  cases prepares with
  | refused | unknown => exact .refl _
  | found _ disk => rw [disk]; exact .refl _
  | undownloaded _ _ _ meets disk =>
      rw [disk]
      exact rooted.grows_plantAll (noLinks_of_meets noLinks meets)
  | downloaded _ _ _ answer disk =>
      rw [disk, cachePlace_eq]
      have meets := Host.meets_of_answer answer
      exact (rooted.grows_plantAll (noLinks_of_meets noLinks meets)).trans
        (storage.grows_install (rooted.plantAll _) spec _ _ _)

/-- What a call that gives no directory leaves of a disk. -/
structure LeavesNothing (storage : PackageStorage) (spec : PackageSpec) (base left : Disk) :
    Prop where
  /-- There is nothing new but directories above the package's place. -/
  directories : left.Alike base ∨ left.Alike (storage.madeReady spec base)
  /-- At the package's place there is what was there. -/
  location : ".." ∉ (storage.cachePlace spec).components → ∀ found,
    left.stat (storage.cachePlace spec) = .ok found ↔
      base.stat (storage.cachePlace spec) = .ok found
  /-- If the directory above is there, there is nothing new at all. -/
  settled : base.isDirectory (storage.cachePlace spec).parent = .ok true → left.Alike base

theorem LeavesNothing.refl (storage : PackageStorage) (spec : PackageSpec) (disk : Disk) :
    LeavesNothing storage spec disk disk :=
  ⟨.inl fun _ => rfl, fun _ _ => .rfl, fun _ _ => rfl⟩

theorem LeavesNothing.of_alike {base left : Disk} (rooted : base.Rooted)
    (alike : left.Alike (storage.madeReady spec base)) :
    LeavesNothing storage spec base left := by
  refine ⟨.inr alike, ?_, ?_⟩
  · intro plain found
    rw [stat_congr alike, madeReady, cachePlace_eq, HostPath.parent_append]
    rw [cachePlace_eq] at plain
    apply stat_ensureDirectories_iff rooted
    · exact fun up => plain (List.mem_append_left _ up)
    · rintro up
      exact plain (List.mem_append_right _ (by simp [up]))
  · intro there
    rwa [madeReady, ensureDirectories_of_isDirectory rooted there] at alike

/--
A directory has come to a package's place, and neither what was there before nor the directories
above have made it one.
-/
structure Brings (storage : PackageStorage) (spec : PackageSpec) (base left : Disk) : Prop where
  there : left.isDirectory (storage.cachePlace spec) = .ok true
  absent : (storage.madeReady spec base).isDirectory (storage.cachePlace spec) ≠ .ok true

theorem LeavesNothing.not_brings {base left : Disk}
    (nothing : LeavesNothing storage spec base left) : ¬Brings storage spec base left := by
  intro brings
  rcases nothing.directories with alike | alike
  · have before := (isDirectory_congr alike _).symm.trans brings.there
    exact brings.absent (isDirectory_of_grows before (grows_ensureDirectories _ _))
  · exact brings.absent ((isDirectory_congr alike _).symm.trans brings.there)

/-- The registry sent an archive, and what it extracts to has come to the package's place. -/
def BringsWhole (storage : PackageStorage) (spec : PackageSpec) (host : Host)
    (planted : List (HostPath × DiskEntry)) (left : Disk) : Prop :=
  ∃ status length body members place,
    host.responses.head? = some (.reply status length body planted none) ∧
      body.open? = .ok members ∧
      Placed (storage.madeReady spec (host.disk.plantAll planted)) left (storage.cachePlace spec)
        place members

/-- A call brings the whole of a package, or nothing but directories above the package's place. -/
theorem Prepares.whole_or_nothing (prepares : Prepares storage spec host outcome left)
    (rooted : host.disk.Rooted) :
    ∃ planted, host.Meets planted ∧
      (LeavesNothing storage spec (host.disk.plantAll planted) left.disk ∨
        (∃ path, outcome = .value path) ∧
          BringsWhole storage spec host planted left.disk) := by
  cases prepares with
  | refused | unknown => exact ⟨[], .inl rfl, .inl (.refl storage spec _)⟩
  | found _ disk =>
      rw [disk]
      exact ⟨[], .inl rfl, .inl (.refl storage spec _)⟩
  | @undownloaded _ _ planted _ _ _ meets disk =>
      rw [disk]
      exact ⟨planted, meets, .inl (.refl storage spec _)⟩
  | @downloaded status length body _ planted _ _ _ answer disk =>
      refine ⟨planted, Host.meets_of_answer answer, ?_⟩
      rw [disk]
      rcases installation_leaves (rooted.plantAll planted) storage spec body with
        alike | ⟨done, members, place, opened, placed⟩
      · exact .inl (.of_alike (rooted.plantAll planted) alike)
      · rw [done]
        exact .inr ⟨⟨_, rfl⟩, status, length, body, members, place, answer, opened, placed⟩

end Typeset.PackageStorage
