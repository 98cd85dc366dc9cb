import Typeset.Proofs.Package
import Typeset.Proofs.Package.Install

/-!
# Preparing a package

A call that prepares a package answers with an existing directory or fails with a
package error, unless one of these mishaps occurs: a path is too long to be looked
up, the announced length of the archive counts as digits but is no number that can
be read, or the installation of the archive does not end well. Neither the state of
the disk nor the answer of the registry makes a call end otherwise.
-/

namespace Typeset

namespace PackageStorage

open Disk

/-! ## The announced length -/

/-- A text that counts as a run of digits, but is no number that can be read. -/
structure Unreadable (text : String) : Prop where
  nonempty : text.toList ≠ []
  digits : ∀ char ∈ text.toList, Text.isDigit char = true
  unread : (∃ char ∈ text.toList, Text.decimalValue? char = none) ∨
    Number.maxIntegerDigits < text.toList.length

theorem mapM_eq_none_iff {α β : Type} {function : α → Option β} {items : List α} :
    items.mapM function = none ↔ ∃ item ∈ items, function item = none := by
  induction items with
  | nil => simp
  | cons item items ih =>
      simp only [List.mapM_cons, List.mem_cons, exists_eq_or_imp, ← ih]
      cases function item with
      | none => simp
      | some value => cases items.mapM function <;> simp

theorem length_of_mapM {α β : Type} {function : α → Option β} {items : List α} {values : List β}
    (mapped : items.mapM function = some values) : values.length = items.length := by
  induction items generalizing values with
  | nil =>
      cases mapped
      rfl
  | cons item items ih =>
      rw [List.mapM_cons] at mapped
      cases one : function item with
      | none => simp [one] at mapped
      | some value =>
          cases rest : items.mapM function with
          | none => simp [one, rest] at mapped
          | some others =>
              simp only [one, rest, Option.bind_eq_bind, Option.bind_some, Option.pure_def,
                Option.some.injEq] at mapped
              rw [← mapped, List.length_cons, List.length_cons, ih rest]

theorem announcedLength_error_iff {header : Option String} :
    (∃ fault, announcedLength header = .error fault) ↔
      ∃ text, header = some text ∧ Unreadable text := by
  cases header with
  | none => simp [announcedLength]
  | some text =>
      simp only [Option.some.injEq, exists_eq_left', announcedLength, Option.map_some]
      split
      · cases ‹_›
      · next blank =>
          refine ⟨fun ⟨_, refused⟩ => (nomatch refused), fun unreadable => ?_⟩
          exact absurd (Option.some.inj blank) unreadable.nonempty
      · next chars nonempty same =>
          cases Option.some.inj same
          by_cases digits : ∀ char ∈ text.toList, Text.isDigit char = true
          · rw [if_neg (by simpa using digits)]
            cases read : text.toList.mapM Text.decimalValue? with
            | none =>
                have strange := mapM_eq_none_iff.mp read
                exact ⟨fun _ => ⟨nonempty, digits, .inl strange⟩, fun _ => ⟨_, rfl⟩⟩
            | some values =>
                simp only [length_of_mapM read]
                by_cases long : Number.maxIntegerDigits < text.toList.length
                · rw [if_pos long]
                  exact ⟨fun _ => ⟨nonempty, digits, .inr long⟩, fun _ => ⟨_, rfl⟩⟩
                · rw [if_neg long]
                  refine ⟨fun ⟨_, refused⟩ => (nomatch refused), fun unreadable => ?_⟩
                  have strange := unreadable.unread.resolve_right long
                  cases (mapM_eq_none_iff.mpr strange).symm.trans read
          · rw [if_pos (by simpa using digits)]
            refine ⟨fun ⟨_, refused⟩ => (nomatch refused), fun unreadable => ?_⟩
            exact absurd unreadable.digits digits

/-! ## Preparing -/

/-- The directories where a package is looked for. -/
def places (storage : PackageStorage) (spec : PackageSpec) : List HostPath :=
  [storage.installed.append spec.directory, storage.cache.append spec.directory]

/-- A package is fetched: it is at none of its places, and its namespace is on offer. -/
structure Fetches (storage : PackageStorage) (spec : PackageSpec) (host : Host) : Prop where
  missing : findDirectory host.disk (storage.places spec) = .ok none
  offered : spec.nameSpace = downloadable

/-- What keeps a call that prepares a package from ending well. -/
inductive Mishap (storage : PackageStorage) (spec : PackageSpec) (host : Host) : Prop
  /-- The system refuses to look for the package. -/
  | lookup (refused : findDirectory host.disk (storage.places spec) = .error .nameTooLong)
  /-- The registry announces a length that breaks off its reader. -/
  | length {status : Nat} {text : String} {body : ArchiveData}
      {meanwhile : List (HostPath × DiskEntry)} {cut : Option String}
      (fetches : Fetches storage spec host)
      (answer : host.responses.head? = some (.reply status (some text) body meanwhile cut))
      (good : status < 400) (unreadable : Unreadable text)
  /-- The whole archive is there, but its installation does not end well. -/
  | installation {status : Nat} {length : Option String} {body : ArchiveData}
      {meanwhile : List (HostPath × DiskEntry)} (fetches : Fetches storage spec host)
      (answer : host.responses.head? = some (.reply status length body meanwhile none))
      (good : status < 400) (readable : ∀ text, length = some text → ¬Unreadable text)
      (mishap : storage.InstallMishap (host.disk.plantAll meanwhile) spec
        (storage.cache.append spec.directory) body)

variable {storage : PackageStorage} {spec : PackageSpec} {host : Host} {status : Nat}
  {length : Option String} {body : ArchiveData} {meanwhile : List (HostPath × DiskEntry)}

theorem download_of_unreadable {text : String} {cut : Option String}
    (answer : host.responses.head? = some (.reply status (some text) body meanwhile cut))
    (good : status < 400) (unreadable : Unreadable text) (spec : PackageSpec) (url : String) :
    ∃ fault, (download spec url host).1 = .broken fault := by
  rcases announcedLength_error_iff.mpr ⟨text, rfl, unreadable⟩ with ⟨fault, refused⟩
  rcases List.head?_eq_some_iff.mp answer with ⟨later, stored⟩
  refine ⟨fault, ?_⟩
  simp only [download, request, stored, refused]
  rw [if_neg (by omega), if_neg (by omega)]

theorem download_of_readable
    (answer : host.responses.head? = some (.reply status length body meanwhile none))
    (good : status < 400) (readable : ∀ text, length = some text → ¬Unreadable text)
    (spec : PackageSpec) (url : String) :
    (download spec url host).1 = .value body ∧
      (download spec url host).2.2.disk = host.disk.plantAll meanwhile := by
  rcases List.head?_eq_some_iff.mp answer with ⟨later, stored⟩
  cases announced : announcedLength length with
  | error fault =>
      rcases announcedLength_error_iff.mp ⟨fault, announced⟩ with ⟨text, given, unreadable⟩
      exact absurd unreadable (readable text given)
  | ok size =>
      simp only [download, request, stored, announced]
      rw [if_neg (by omega), if_neg (by omega)]
      exact ⟨rfl, rfl⟩

/-- A download gives a body, is broken off by an unreadable length, or fails. -/
theorem download_cases (spec : PackageSpec) (url : String) (host : Host) :
    (∃ error, (download spec url host).1 = .failed error ∧ error.kind = .package) ∨
    (∃ status text body meanwhile cut,
      host.responses.head? = some (.reply status (some text) body meanwhile cut) ∧
        status < 400 ∧ Unreadable text) ∨
    ∃ status length body meanwhile,
      host.responses.head? = some (.reply status length body meanwhile none) ∧
        status < 400 ∧ ∀ text, length = some text → ¬Unreadable text := by
  have ends := (downloads spec url host).ends
  generalize (download spec url host).1 = outcome at ends ⊢
  cases ends with
  | failed ofPackage => exact .inl ⟨_, rfl, ofPackage⟩
  | unreadable answer good refused =>
      rcases announcedLength_error_iff.mp ⟨_, refused⟩ with ⟨text, same, unreadable⟩
      cases same
      exact .inr (.inl ⟨_, _, _, _, _, answer, good, unreadable⟩)
  | whole answer good announced =>
      refine .inr (.inr ⟨_, _, _, _, answer, good, fun text given unreadable => ?_⟩)
      rcases announcedLength_error_iff.mpr ⟨text, given, unreadable⟩ with ⟨fault, refused⟩
      cases announced.symm.trans refused

/-- The machine when a download begins. -/
def announced (storage : PackageStorage) (spec : PackageSpec) (host : Host) : Host :=
  host.record (.world .info
    s!"Downloading package {spec.render} from {spec.archiveUrl storage.registry}")

/-- A call that fetches a package downloads it and installs what it has downloaded. -/
theorem prepare_of_fetches (fetches : Fetches storage spec host) :
    storage.prepare spec host =
      match download spec (spec.archiveUrl storage.registry) (storage.announced spec host) with
      | (.failed error, events, host) => (.failed error, events, host)
      | (.broken fault, events, host) => (.broken fault, events, host)
      | (.value body, events, host) =>
          let (disk, outcome) :=
            storage.install host.disk spec (storage.cache.append spec.directory) body
          (outcome.map fun _ => storage.cache.append spec.directory, events,
            { host with disk := disk }) := by
  have missing := fetches.missing
  simp only [places] at missing
  simp only [prepare, missing]
  rw [if_neg (by simp [fetches.offered])]
  rfl

theorem prepare_of_broken (fetches : Fetches storage spec host) {fault : Fault}
    (broken : (download spec (spec.archiveUrl storage.registry)
      (storage.announced spec host)).1 = .broken fault) :
    (storage.prepare spec host).1 = .broken fault := by
  rw [prepare_of_fetches fetches]
  generalize download spec (spec.archiveUrl storage.registry) (storage.announced spec host) =
    done at broken
  rcases done with ⟨outcome, events, after⟩
  cases broken
  rfl

theorem prepare_of_failed (fetches : Fetches storage spec host) {error : FileError}
    (failed : (download spec (spec.archiveUrl storage.registry)
      (storage.announced spec host)).1 = .failed error) :
    (storage.prepare spec host).1 = .failed error := by
  rw [prepare_of_fetches fetches]
  generalize download spec (spec.archiveUrl storage.registry) (storage.announced spec host) =
    done at failed
  rcases done with ⟨outcome, events, after⟩
  cases failed
  rfl

theorem prepare_of_body (fetches : Fetches storage spec host) {disk : Disk}
    (downloaded : (download spec (spec.archiveUrl storage.registry)
      (storage.announced spec host)).1 = .value body)
    (left : (download spec (spec.archiveUrl storage.registry)
      (storage.announced spec host)).2.2.disk = disk) :
    (storage.prepare spec host).1 =
        (storage.install disk spec (storage.cache.append spec.directory) body).2.map
          (fun _ => storage.cache.append spec.directory) ∧
      (storage.prepare spec host).2.2.disk =
        (storage.install disk spec (storage.cache.append spec.directory) body).1 := by
  rw [prepare_of_fetches fetches]
  generalize download spec (spec.archiveUrl storage.registry) (storage.announced spec host) =
    done at downloaded left
  rcases done with ⟨outcome, events, after⟩
  cases downloaded
  subst left
  exact ⟨rfl, rfl⟩

theorem append_directory (path : HostPath) (spec : PackageSpec) :
    path.append spec.directory =
      (path.append [spec.nameSpace, spec.name]).append [spec.version] := by
  simp [HostPath.append, PackageSpec.directory]

/-- A call that prepares a package ends well on the disk that it leaves. -/
def PreparesWell (storage : PackageStorage) (spec : PackageSpec) (host : Host) : Prop :=
  EndsWell (storage.prepare spec host).1 (storage.prepare spec host).2.2.disk

/-- A call that finds the package ends well. -/
theorem preparesWell_of_found {path : HostPath}
    (found : findDirectory host.disk (storage.places spec) = .ok (some path)) :
    storage.PreparesWell spec host := by
  have there := isDirectory_of_findDirectory found
  simp only [places] at found
  simp only [PreparesWell, prepare, found]
  exact endsWell_value_iff.mpr there

/-- No call ends well that meets an unreadable length. -/
theorem not_preparesWell_of_unreadable {text : String} {cut : Option String}
    (fetches : Fetches storage spec host)
    (answer : host.responses.head? = some (.reply status (some text) body meanwhile cut))
    (good : status < 400) (unreadable : Unreadable text) : ¬storage.PreparesWell spec host := by
  have given : (storage.announced spec host).responses.head? = _ := answer
  rcases download_of_unreadable given good unreadable spec (spec.archiveUrl storage.registry)
    with ⟨fault, broken⟩
  rw [PreparesWell, prepare_of_broken fetches broken]
  exact not_endsWell_broken fault

/-- A call that fetches a whole body ends as the installation of the body does. -/
theorem preparesWell_of_readable_iff (rooted : host.disk.Rooted)
    (fetches : Fetches storage spec host)
    (answer : host.responses.head? = some (.reply status length body meanwhile none))
    (good : status < 400) (readable : ∀ text, length = some text → ¬Unreadable text) :
    storage.PreparesWell spec host ↔
      ¬storage.InstallMishap (host.disk.plantAll meanwhile) spec
        (storage.cache.append spec.directory) body := by
  have given : (storage.announced spec host).responses.head? = _ := answer
  rcases download_of_readable given good readable spec (spec.archiveUrl storage.registry)
    with ⟨downloaded, left⟩
  rcases prepare_of_body fetches downloaded left with ⟨outcome, disk⟩
  rw [PreparesWell, outcome, disk, append_directory,
    ← storage.installsWell_iff (rooted.plantAll meanwhile)]
  rfl

/--
A call that prepares a package answers with an existing directory or fails with a package
error, exactly unless a mishap occurs.
-/
theorem preparesWell_iff (storage : PackageStorage) (spec : PackageSpec) {host : Host}
    (rooted : host.disk.Rooted) : storage.PreparesWell spec host ↔ ¬Mishap storage spec host := by
  constructor
  · intro well mishap
    cases mishap with
    | lookup refused =>
        simp only [places] at refused
        simp only [PreparesWell, prepare, refused] at well
        exact not_endsWell_broken _ well
    | length fetches answer good unreadable =>
        exact not_preparesWell_of_unreadable fetches answer good unreadable well
    | installation fetches answer good readable mishap =>
        exact (preparesWell_of_readable_iff rooted fetches answer good readable).mp well mishap
  · intro smooth
    cases found : findDirectory host.disk (storage.places spec) with
    | error fault =>
        rw [findDirectory_error found] at found
        exact absurd (.lookup found) smooth
    | ok directory =>
        cases directory with
        | some path => exact preparesWell_of_found found
        | none =>
            by_cases offered : spec.nameSpace = downloadable
            · have fetches : Fetches storage spec host := ⟨found, offered⟩
              rcases download_cases spec (spec.archiveUrl storage.registry)
                (storage.announced spec host) with
                ⟨error, failed, ofPackage⟩ |
                ⟨status, text, body, meanwhile, cut, answer, good, unreadable⟩ |
                ⟨status, length, body, meanwhile, answer, good, readable⟩
              · rw [PreparesWell, prepare_of_failed fetches failed]
                exact endsWell_failed_iff.mpr ofPackage
              · exact absurd (.length fetches answer good unreadable) smooth
              · rw [preparesWell_of_readable_iff rooted fetches answer good readable]
                exact fun mishap => smooth (.installation fetches answer good readable mishap)
            · simp only [places] at found
              simp only [PreparesWell, prepare, found]
              rw [if_pos offered]
              exact endsWell_failed_iff.mpr rfl

/-- A disk that holds the directory of one package. -/
def onePackage : Disk :=
  ⟨[(["preview"], .directory), (["preview", "demo"], .directory),
    (["preview", "demo", "0.1.0"], .directory)]⟩

/-- A package that is installed meets no mishap, whatever the registry has in store. -/
theorem no_mishap_of_installed_package :
    onePackage.Rooted ∧
      ¬Mishap (.make ⟨.relative, []⟩ ⟨.relative, ["cache"]⟩ "") ⟨"preview", "demo", "0.1.0"⟩
        ⟨onePackage, [.reply 200 (some "²") (.chunks [[0x1F, 0x8B]]) []], [], []⟩ := by
  have rooted : onePackage.Rooted := rooted_of_entries (by simp [onePackage, Disk.entry?])
  refine ⟨rooted, (preparesWell_iff _ _ rooted).mp ?_⟩
  have there : onePackage.isDirectory ⟨.relative, ["preview", "demo", "0.1.0"]⟩ = .ok true := by
    refine isDirectory_eq_true_iff.mpr ⟨["preview", "demo", "0.1.0"], ?_, rfl⟩
    rw [locate_of_walkable ⟨by decide, by decide, rfl⟩]
    exact follow_of_arrives
      (.into ⟨by decide, by decide⟩ rfl (.into ⟨by decide, by decide⟩ rfl
        (.into ⟨by decide, by decide⟩ rfl .here)))
  apply preparesWell_of_found
  change findDirectory _ [⟨.relative, ["preview", "demo", "0.1.0"]⟩, _] = _
  simp only [findDirectory, there]
  rfl

theorem unreadable_superscript : Unreadable "²" where
  nonempty := by decide
  digits := by
    intro char member
    rw [show "²".toList = ['²'] from rfl, List.mem_singleton] at member
    rw [member]
    rfl
  unread := .inl ⟨'²', List.mem_singleton_self _, rfl⟩

/-- A proper archive whose length is announced as a superscript two breaks a call off. -/
theorem superscript_length_breaks_call :
    ¬PreparesWell (.make ⟨.relative, ["packages"]⟩ ⟨.relative, ["cache"]⟩ "")
      ⟨"preview", "demo", "0.1.0"⟩
      ⟨.empty, [.reply 200 (some "²") (.archive [⟨"lib.typ", some [120]⟩]) []], [], []⟩ := by
  refine not_preparesWell_of_unreadable ⟨?_, rfl⟩ rfl (by decide) unreadable_superscript
  have installed : Disk.empty.isDirectory
      ⟨.relative, ["packages", "preview", "demo", "0.1.0"]⟩ = .ok false :=
    isDirectory_empty ⟨by decide, by decide, rfl⟩ rfl ⟨by decide, by decide⟩
  have cached : Disk.empty.isDirectory
      ⟨.relative, ["cache", "preview", "demo", "0.1.0"]⟩ = .ok false :=
    isDirectory_empty ⟨by decide, by decide, rfl⟩ rfl ⟨by decide, by decide⟩
  change findDirectory Disk.empty [⟨.relative, ["packages", "preview", "demo", "0.1.0"]⟩,
    ⟨.relative, ["cache", "preview", "demo", "0.1.0"]⟩] = .ok none
  simp only [findDirectory, installed, cached]
  rfl

end PackageStorage

end Typeset
