import Typeset.Proofs.HostPath
import Typeset.Proofs.Package.Calls
import Typeset.World

/-!
# Chains of joined paths

A document names other files by paths, these files name further ones, and so on. Whatever the
paths are, the chain never leaves the root that it starts below: each path is followed from a
path of plain components and leads to one, and the origin of the files is handed on. So a file
of the chain lies below its root, at the end of its components, and two such files of one package
lie at one place only if they are the same file.
-/

namespace Typeset.FileId

open VirtualPath

/-- A file that a chain can start at: one named from its root by any path, or the main text. -/
inductive Named : FileId → Prop
  | project (path : String) : Named (.project path)
  | inPackage (spec : PackageSpec) (path : String) : Named (.inPackage spec path)
  | main : Named .main

/-- The last of the files that are named by paths, each written in the file before it. -/
def follow (id : FileId) (paths : List String) : FileId :=
  paths.foldl join id

variable {start id other : FileId}

/-! ## One path -/

theorem Named.plain (named : start.Named) : start.path.Plain := by
  cases named with
  | project path => exact plain_parse path
  | inPackage spec path => exact plain_parse path
  | main => exact plain_parse _

theorem package?_neighbours (id : FileId) : id.neighbours.package? = id.origin.package? := by
  rcases id with ⟨origin, path⟩
  cases origin <;> rfl

theorem neighbours_ne_memory (id : FileId) : id.neighbours ≠ .memory := by
  rcases id with ⟨origin, path⟩
  cases origin <;> simp [neighbours]

theorem plain_parent {path : VirtualPath} (plain : path.Plain) : path.parent.Plain :=
  fun component member => plain component (List.dropLast_subset _ member)

theorem plain_join (plain : id.path.Plain) (path : String) : (id.join path).path.Plain := by
  rw [join]
  split
  · exact plain_parse path
  · exact plain_extend (plain_parent plain) path

/-! ## A whole chain -/

theorem package?_follow (start : FileId) (paths : List String) :
    (start.follow paths).origin.package? = start.origin.package? := by
  induction paths generalizing start with
  | nil => rfl
  | cons path paths ih =>
      have later := ih (start.join path)
      exact later.trans (package?_neighbours start)

theorem follow_ne_memory {paths : List String} (some_path : paths ≠ []) (start : FileId) :
    (start.follow paths).origin ≠ .memory := by
  rcases List.eq_nil_or_concat paths with rfl | ⟨front, last, rfl⟩
  · exact absurd rfl some_path
  · rw [follow, List.concat_eq_append, List.foldl_concat]
    exact neighbours_ne_memory _

theorem plain_follow (plain : start.path.Plain) (paths : List String) :
    (start.follow paths).path.Plain := by
  induction paths generalizing start with
  | nil => exact plain
  | cons path paths ih => exact ih (plain_join plain path)

/-! ## Places on disk -/

theorem resolve_eq_none_iff {root : HostPath} : id.resolve root = none ↔ id.origin = .memory := by
  rw [resolve]
  split
  · next inMemory => exact iff_of_true rfl inMemory
  · next onDisk => exact iff_of_false (Option.some_ne_none _) onDisk

theorem resolve_of_plain (plain : id.path.Plain) (onDisk : id.origin ≠ .memory)
    (root : HostPath) : id.resolve root = some (root.append (written id.path.render)) := by
  rw [written_render plain, resolve]
  split
  · next inMemory => exact absurd inMemory onDisk
  · rfl

theorem origin_eq_of_package? (left : id.origin ≠ .memory) (right : other.origin ≠ .memory)
    (same : id.origin.package? = other.origin.package?) : id.origin = other.origin := by
  rcases id with ⟨origin, _⟩
  rcases other with ⟨origin', _⟩
  cases origin <;> cases origin' <;> simp_all [FileOrigin.package?]

/-- Among the files of one package, the place below a root tells the file. -/
theorem resolve_inj (left : id.origin ≠ .memory) (right : other.origin ≠ .memory)
    (same : id.origin.package? = other.origin.package?) (root : HostPath) :
    id.resolve root = other.resolve root ↔ id = other := by
  constructor
  · intro together
    have origins := origin_eq_of_package? left right same
    rcases id with ⟨origin, ⟨components⟩⟩
    rcases other with ⟨origin', ⟨components'⟩⟩
    cases origins
    have places : root.append components = root.append components' := by
      cases origin with
      | memory => exact absurd rfl left
      | project => exact Option.some.inj together
      | package spec => exact Option.some.inj together
    rw [HostPath.append_inj.mp places]
  · exact congrArg (resolve · root)

end Typeset.FileId

namespace Typeset.World

/-- The directories that the files of the project, or of a package, can lie below. -/
def roots (world : World) : Option PackageSpec → List HostPath
  | some spec => world.packages.places spec
  | none => [world.root]

theorem mem_roots_of_rootOf {world : World} {origin : FileOrigin} {root : HostPath}
    (given : ((rootOf origin).run world).1 = .value root) : root ∈ world.roots origin.package? := by
  cases origin with
  | package spec => exact (PackageStorage.prepares _ spec world.host).mem_places given
  | project =>
      cases given
      exact List.mem_singleton_self _
  | memory =>
      cases given
      exact List.mem_singleton_self _

/-- A file on disk lies where its identity says, below a root of its origin. -/
theorem resolved_of_systemPath {world : World} {id : FileId} {path : HostPath}
    (given : ((systemPath id).run world).1 = .value path) :
    ∃ root ∈ world.roots id.origin.package?, id.resolve root = some path := by
  obtain ⟨below, split, only⟩ : ∃ below : HostPath → Outcome HostPath,
      ((systemPath id).run world).1 = ((rootOf id.origin).run world).1.andThen below ∧
        ∀ root place, below root = .value place → id.resolve root = some place := by
    refine ⟨_, rfl, ?_⟩
    intro root place found
    cases resolved : id.resolve root with
    | none =>
        simp only [resolved] at found
        cases found
    | some other =>
        simp only [resolved] at found
        cases found
        rfl
  rw [split] at given
  cases asked : ((rootOf id.origin).run world).1 with
  | failed error =>
      rw [asked] at given
      cases given
  | broken fault =>
      rw [asked] at given
      cases given
  | value root =>
      rw [asked] at given
      exact ⟨root, mem_roots_of_rootOf asked, only root path given⟩

end Typeset.World

namespace Typeset.FileId

open VirtualPath

/--
Every file of a chain keeps the package of the first one, and it lies on disk unless it is the
main text at the start. Its path spells plain components. Below a root it lies where these lead,
one after another, which is nowhere outside of the root; and a world reads it there, below the
root of the project or below a directory of the package. Two files of one package that lie at
one place below a root are one file.
-/
theorem follow_stays_below_root {start file : FileId} {paths : List String} (named : start.Named)
    (chain : start.follow paths = file) :
    file.origin.package? = start.origin.package? ∧
    (paths ≠ [] → file.origin ≠ .memory) ∧
    (∀ component ∈ written file.path.render, IsPlain component) ∧
    (∀ root, file.origin ≠ .memory →
      file.resolve root = some (root.append (written file.path.render)) ∧
      root.append (written file.path.render) = root.descend (written file.path.render) ∧
      (root.append (written file.path.render)).LiesWithin root) ∧
    (∀ (world : World) (place : HostPath), ((World.systemPath file).run world).1 = .value place →
      ∃ root ∈ world.roots start.origin.package?, place.LiesWithin root) ∧
    (∀ (other file' : FileId) (paths' : List String), other.follow paths' = file' →
      file.origin ≠ .memory → file'.origin ≠ .memory →
      start.origin.package? = other.origin.package? →
        ∀ root, file.resolve root = file'.resolve root ↔ file = file') := by
  subst chain
  have plain := plain_follow named.plain paths
  have components : ∀ component ∈ written (start.follow paths).path.render, IsPlain component := by
    rw [written_render plain]
    exact plain
  refine ⟨package?_follow start paths, fun joined => follow_ne_memory joined start, components,
    ?_, ?_, ?_⟩
  · intro root onDisk
    exact ⟨resolve_of_plain plain onDisk root, (HostPath.descend_of_plain components root).symm,
      HostPath.liesWithin_append components root⟩
  · intro world place read
    rcases World.resolved_of_systemPath read with ⟨root, among, resolved⟩
    rw [package?_follow] at among
    refine ⟨root, among, ?_⟩
    have onDisk : (start.follow paths).origin ≠ .memory := by
      intro inMemory
      cases resolved.symm.trans (resolve_eq_none_iff.mpr inMemory)
    rw [resolve_of_plain plain onDisk root] at resolved
    rw [← Option.some.inj resolved]
    exact HostPath.liesWithin_append components root
  · rintro other _ paths' rfl left right same root
    have packages :
        (start.follow paths).origin.package? = (other.follow paths').origin.package? := by
      rw [package?_follow, package?_follow, same]
    exact resolve_inj left right packages root

/-- Two chains out of the main text climb as far as they can, and lead to different files. -/
theorem follow_stays_below_root_of_climbing :
    main.follow ["../..\\lib/a.typ", "/..//./lib\\b.typ"] = project "lib/b.typ" ∧
    main.follow ["../..\\lib/a.typ", "..\\../../x"] = project "x" ∧
    (project "lib/b.typ").resolve (.parse "../work") = some (.parse "../work/lib/b.typ") ∧
    (HostPath.parse "../work/lib/b.typ").LiesWithin (.parse "../work") ∧
    (project "lib/b.typ").resolve (.parse "../work") ≠
      (project "x").resolve (.parse "../work") := by
  have chain : main.follow ["../..\\lib/a.typ", "/..//./lib\\b.typ"] = project "lib/b.typ" := by
    decide +kernel
  have other : main.follow ["../..\\lib/a.typ", "..\\../../x"] = project "x" := by
    decide +kernel
  have place : HostPath.append (.parse "../work") (written (project "lib/b.typ").path.render) =
      .parse "../work/lib/b.typ" := by
    decide +kernel
  rcases follow_stays_below_root .main chain with ⟨_, _, _, below, _, apart⟩
  rcases below (.parse "../work") (by decide) with ⟨resolved, _, within⟩
  rw [place] at resolved within
  refine ⟨chain, other, resolved, within, ?_⟩
  have different : project "lib/b.typ" ≠ project "x" := by
    decide +kernel
  exact mt (apart main _ _ other (by decide) (by decide) rfl _).mp different

end Typeset.FileId
