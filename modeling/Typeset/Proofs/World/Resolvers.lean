import Typeset.Proofs.World.Answers

/-!
# Reading through any resolver

A world asks a resolver where the files of a package lie. Here the resolver is a parameter,
and the one that goes by the storage of the world is an instance, so that what is said of
reads holds whatever finds the packages.

A question for a file breaks off exactly when the file has to be read and either its
resolver breaks off, or the place that is found has a zero character in its path; every
other failure is a file error.
-/

namespace Typeset

/-- What finds the directory of a package on a machine, and what it leaves of the machine. -/
abbrev Resolver :=
  PackageStorage → PackageSpec → Host → Outcome HostPath × Host

namespace Resolver

/-- The resolver that finds every package below one directory. -/
def below (root : HostPath) : Resolver := fun _packages spec host =>
  (.value (root.append spec.directory), host)

/-- The resolver that takes packages from where they are kept, or from the registry. -/
def preparing : Resolver := fun packages spec host =>
  let (outcome, _, host) := packages.prepare spec host
  (outcome, host)

/-- A resolver gives a directory or fails with a file error. -/
def Orderly (resolver : Resolver) : Prop :=
  ∀ packages spec host fault, (resolver packages spec host).1 ≠ .broken fault

theorem orderly_below (root : HostPath) : (below root).Orderly := by
  intro packages spec host fault
  simp [below]

end Resolver

namespace World

open FileCache

variable (resolver : Resolver)

/-! ## Questions -/

def rootBy (origin : FileOrigin) : StateM World (Outcome HostPath) := do
  let world ← get
  match origin with
  | .package spec =>
      let (outcome, host) := resolver world.packages spec world.host
      set { world with host := host }
      return outcome
  | _ => return .value world.root

def readBy (id : FileId) : StateM World (Outcome Bytes) := do
  let root ← rootBy resolver id.origin
  let world ← get
  return (root.andThen fun root =>
    match id.resolve root with
    | some path => .value path
    | none => .failed (.ofMessage .accessDenied "failed to load file (access denied)")).andThen
    (readDisk world.host.disk)

def cachedSourceBy (id : FileId) : StateM World (Outcome Source) := do
  let access ← (← get).cache.source id (readBy resolver id)
  store access.cache (sourceRecords id access)
  return access.outcome

def cachedFileBy (id : FileId) : StateM World (Outcome Bytes) := do
  let access ← (← get).cache.file id (readBy resolver id)
  store access.cache (fileRecords access)
  return access.outcome

def sourceBy (id : FileId) : StateM World (Outcome Source) := do
  let world ← get
  if id = .main then return .value world.mainSource
  match world.overlay.lookup id with
  | some content => virtualSource id content
  | none =>
      set (world.dropVirtualSource id)
      cachedSourceBy resolver id

def fileBy (id : FileId) : StateM World (Outcome Bytes) := do
  let world ← get
  if id = .main then return .value (Text.Utf8.encode world.markup.toList)
  match world.overlay.lookup id with
  | some content => return .value content
  | none => cachedFileBy resolver id

theorem read_eq_readBy : read = readBy .preparing := by
  funext id
  rcases id with ⟨origin, path⟩
  cases origin <;> rfl

theorem source_eq_sourceBy : source = sourceBy .preparing := by
  funext id
  unfold sourceBy cachedSourceBy
  rw [← read_eq_readBy]
  rfl

theorem file_eq_fileBy : file = fileBy .preparing := by
  funext id
  unfold fileBy cachedFileBy
  rw [← read_eq_readBy]
  rfl

/-! ## When a question breaks off -/

/-- Where a file lies, as far as its resolver can tell. -/
def placeBy (world : World) (id : FileId) : Outcome HostPath :=
  match id.origin with
  | .project => .value (world.root.append id.path.components)
  | .package spec =>
      (resolver world.packages spec world.host).1.map (·.append id.path.components)
  | .memory => .failed (.ofMessage .accessDenied "failed to load file (access denied)")

/-- Why a place cannot even be looked at: its resolver broke off, or it has a zero character. -/
inductive Unsearchable : Outcome HostPath → Fault → Prop
  | unresolved (fault : Fault) : Unsearchable (.broken fault) fault
  | zero {path : HostPath} (zero : path.HasZero) :
      Unsearchable (.value path) DiskFault.zeroInPath.toFault

/-- Neither the memory of the world nor its cache has the answer to a question. -/
structure Unanswered (world : World) (key : Key) : Prop where
  other : key.id ≠ .main
  unshadowed : world.overlay.lookup key.id = none
  forgotten : (world.cache.cell key).remembered? world.cache.generation = none

/-- A read takes the place that the resolver finds, on the disk that it leaves. -/
theorem run_readBy (id : FileId) (world : World) :
    ∃ host, (readBy resolver id).run world =
      ((world.placeBy resolver id).andThen (readDisk host.disk), { world with host := host }) := by
  rcases id with ⟨origin, path⟩
  cases origin with
  | project => exact ⟨world.host, rfl⟩
  | memory => exact ⟨world.host, rfl⟩
  | package spec =>
      refine ⟨(resolver world.packages spec world.host).2, ?_⟩
      have split : (readBy resolver ⟨.package spec, path⟩).run world =
          (((resolver world.packages spec world.host).1.andThen fun root =>
            .value (root.append path.components)).andThen
              (readDisk (resolver world.packages spec world.host).2.disk),
            { world with host := (resolver world.packages spec world.host).2 }) := rfl
      rw [split]
      rfl

theorem andThen_readDisk_broken_iff (place : Outcome HostPath) (disk : Disk) (fault : Fault) :
    place.andThen (readDisk disk) = .broken fault ↔ Unsearchable place fault := by
  constructor
  · intro broken
    cases place with
    | value path =>
        rcases readDisk_broken_iff.mp broken with ⟨zero, rfl⟩
        exact .zero zero
    | failed error => cases broken
    | broken other =>
        cases broken
        exact .unresolved fault
  · rintro (_ | zero)
    · rfl
    · exact readDisk_broken_iff.mpr ⟨zero, rfl⟩

theorem readBy_broken_iff (id : FileId) (world : World) (fault : Fault) :
    ((readBy resolver id).run world).1 = .broken fault ↔
      Unsearchable (world.placeBy resolver id) fault := by
  rcases run_readBy resolver id world with ⟨host, run⟩
  rw [run]
  exact andThen_readDisk_broken_iff _ _ _

theorem make_ne_broken (key : Key) (content : Bytes) (previous : Option key.kind.Value)
    (fault : Fault) : key.make content previous ≠ .broken fault := by
  rcases key with ⟨id, kind⟩
  cases kind with
  | bytes => simp [Key.make, FileSlot.keep]
  | source =>
      simp only [Key.make, FileSlot.parse]
      split <;> simp

/-- Only a reading that breaks off breaks off an access. -/
theorem revalidate_broken_iff (key : Key) (cell : Cell key.kind.Value) (generation : Int)
    (reading : Outcome Bytes) (fault : Fault) :
    (cell.revalidate generation reading key.make).outcome = .broken fault ↔
      reading = .broken fault := by
  rcases reading.broken_or_ofExcept with ⟨other, rfl⟩ | ⟨completed, rfl⟩
  · rw [Cell.revalidate_broken]
    simp only [Outcome.broken.injEq]
  · rw [Cell.revalidate_ofExcept]
    rcases Cell.takeIn_cases { cell with generation := some generation } completed key.make with
      ⟨answer, _, _, does⟩ | ⟨_, does⟩
    · rw [does]
      cases answer <;> cases completed <;> simp [Outcome.ofExcept]
    · rw [does]
      cases completed with
      | ok content => simp [Cell.answerTo, make_ne_broken, Outcome.ofExcept]
      | error error => simp [Cell.answerTo, Outcome.ofExcept]

def cachedBy : (key : Key) → StateM World (Outcome key.kind.Value)
  | ⟨id, .source⟩ => cachedSourceBy resolver id
  | ⟨id, .bytes⟩ => cachedFileBy resolver id

def askBy : (key : Key) → StateM World (Outcome key.kind.Value)
  | ⟨id, .source⟩ => sourceBy resolver id
  | ⟨id, .bytes⟩ => fileBy resolver id

theorem run_cachedBy (key : Key) (world : World) :
    ∃ records, (cachedBy resolver key).run world =
      let access := ((world.cache.cell key).access world.cache.generation
        (readBy resolver key.id) key.make).run world
      (access.1.outcome,
        { access.2 with cache := world.cache.withCell key access.1.cell }.report records) := by
  rcases key with ⟨id, kind⟩
  cases kind with
  | source => exact ⟨sourceRecords id _, rfl⟩
  | bytes => exact ⟨fileRecords _, rfl⟩

theorem cachedBy_broken_iff (key : Key) (world : World) (fault : Fault) :
    ((cachedBy resolver key).run world).1 = .broken fault ↔
      (world.cache.cell key).remembered? world.cache.generation = none ∧
        Unsearchable (world.placeBy resolver key.id) fault := by
  rcases run_cachedBy resolver key world with ⟨records, run⟩
  rw [run]
  cases remembered : (world.cache.cell key).remembered? world.cache.generation with
  | some answer =>
      rw [Cell.access_of_remembered remembered]
      cases answer <;> simp [Outcome.ofExcept]
  | none =>
      rw [Cell.access_of_not_remembered remembered]
      dsimp only
      rw [revalidate_broken_iff, readBy_broken_iff]
      exact (and_iff_right rfl).symm

theorem run_virtualSource_moves (id : FileId) (content : Bytes) (world : World) :
    ∃ outcome sources, (∀ fault, outcome ≠ .broken fault) ∧
      (virtualSource id content).run world =
        (outcome, { world with virtualSources := sources }) := by
  by_cases same : ∃ source, world.virtualSource? id = some (content, source)
  · rcases same with ⟨source, known⟩
    rw [run_virtualSource_of_same known]
    exact ⟨.value source, world.virtualSources, by simp, rfl⟩
  · rw [run_virtualSource_of_changed fun source known => same ⟨source, known⟩]
    have made := make_ne_broken ⟨id, .source⟩ content ((world.virtualSource? id).map (·.2))
    split
    · exact ⟨_, _, by simp, rfl⟩
    · exact ⟨_, world.virtualSources, made, rfl⟩

/-- A question that memory does not answer is passed on to the cache. -/
theorem run_askBy_of_unshadowed {key : Key} {world : World} (other : key.id ≠ .main)
    (unshadowed : world.overlay.lookup key.id = none) :
    ∃ sources, (askBy resolver key).run world =
      (cachedBy resolver key).run { world with virtualSources := sources } := by
  rcases key with ⟨id, kind⟩
  cases kind with
  | source =>
      refine ⟨(world.dropVirtualSource id).virtualSources, ?_⟩
      simp only [askBy, sourceBy, StateT.run_bind, StateT.run_get, pure_bind, if_neg other,
        unshadowed]
      rfl
  | bytes =>
      refine ⟨world.virtualSources, ?_⟩
      simp only [askBy, fileBy, StateT.run_bind, StateT.run_get, pure_bind, if_neg other,
        unshadowed]
      rfl

/-- The main text or a virtual file is named. -/
def InMemory (world : World) (id : FileId) : Prop :=
  id = .main ∨ ∃ content, world.overlay.lookup id = some content

/-- What memory answers does not break off. -/
theorem run_askBy_of_inMemory {key : Key} {world : World} (inMemory : world.InMemory key.id) :
    ∃ outcome sources, (∀ fault, outcome ≠ .broken fault) ∧
      (askBy resolver key).run world = (outcome, { world with virtualSources := sources }) := by
  by_cases isMain : key.id = .main
  · rcases key with ⟨id, kind⟩
    cases kind
    all_goals
      simp only [askBy, sourceBy, fileBy, StateT.run_bind, StateT.run_get, pure_bind, if_pos isMain]
      exact ⟨_, world.virtualSources, by simp, rfl⟩
  · rcases inMemory with same | ⟨content, shadowed⟩
    · exact absurd same isMain
    · rcases key with ⟨id, kind⟩
      cases kind with
      | source =>
          simp only [askBy, sourceBy, StateT.run_bind, StateT.run_get, pure_bind, if_neg isMain,
            shadowed]
          exact run_virtualSource_moves id content world
      | bytes =>
          simp only [askBy, fileBy, StateT.run_bind, StateT.run_get, pure_bind, if_neg isMain,
            shadowed]
          exact ⟨_, world.virtualSources, by simp, rfl⟩

theorem inMemory_or (world : World) (id : FileId) :
    world.InMemory id ∨ id ≠ .main ∧ world.overlay.lookup id = none := by
  by_cases isMain : id = .main
  · exact .inl (.inl isMain)
  · cases shadowed : world.overlay.lookup id with
    | some content => exact .inl (.inr ⟨content, shadowed⟩)
    | none => exact .inr ⟨isMain, rfl⟩

/--
A question breaks off exactly when its file has to be read and cannot even be looked for.
-/
theorem askBy_broken_iff (key : Key) (world : World) (fault : Fault) :
    ((askBy resolver key).run world).1 = .broken fault ↔
      world.Unanswered key ∧ Unsearchable (world.placeBy resolver key.id) fault := by
  rcases world.inMemory_or key.id with inMemory | ⟨other, unshadowed⟩
  · rcases run_askBy_of_inMemory resolver inMemory with ⟨outcome, sources, unbroken, run⟩
    rw [run]
    constructor
    · intro broken
      exact absurd broken (unbroken fault)
    · rintro ⟨⟨other, unshadowed, _⟩, _⟩
      rcases inMemory with isMain | ⟨content, shadowed⟩
      · exact absurd isMain other
      · cases shadowed.symm.trans unshadowed
  · rcases run_askBy_of_unshadowed resolver other unshadowed with ⟨sources, run⟩
    rw [run, cachedBy_broken_iff]
    constructor
    · rintro ⟨forgotten, unsearchable⟩
      exact ⟨⟨other, unshadowed, forgotten⟩, unsearchable⟩
    · rintro ⟨unanswered, unsearchable⟩
      exact ⟨unanswered.forgotten, unsearchable⟩

theorem unsearchable_iff_of_orderly {resolver : Resolver} (orderly : resolver.Orderly)
    (world : World) (id : FileId) (fault : Fault) :
    Unsearchable (world.placeBy resolver id) fault ↔
      fault = DiskFault.zeroInPath.toFault ∧
        ∃ path, world.placeBy resolver id = .value path ∧ path.HasZero := by
  have resolved (other : Fault) : world.placeBy resolver id ≠ .broken other := by
    rcases id with ⟨origin, path⟩
    cases origin with
    | project => simp [placeBy]
    | memory => simp [placeBy]
    | package spec =>
        have gives := orderly world.packages spec world.host other
        intro broken
        simp only [placeBy] at broken
        cases found : (resolver world.packages spec world.host).1 with
        | value directory =>
            rw [found] at broken
            cases broken
        | failed error =>
            rw [found] at broken
            cases broken
        | broken fault =>
            rw [found] at broken gives
            cases broken
            exact gives rfl
  constructor
  · intro unsearchable
    generalize place : world.placeBy resolver id = found at unsearchable
    cases unsearchable with
    | unresolved => exact absurd place (resolved fault)
    | zero zero => exact ⟨rfl, _, rfl, zero⟩
  · rintro ⟨rfl, path, found, zero⟩
    rw [found]
    exact .zero zero

/-! ## What a question leaves -/

theorem cachedBy_moves (key : Key) (world : World) :
    ∃ cache host, ((cachedBy resolver key).run world).2 =
      { world with cache := cache, host := host } := by
  rcases run_cachedBy resolver key world with ⟨records, run⟩
  cases remembered : (world.cache.cell key).remembered? world.cache.generation with
  | some answer =>
      simp only [Cell.access_of_remembered remembered] at run
      exact ⟨_, _, congrArg Prod.snd run⟩
  | none =>
      rcases run_readBy resolver key.id world with ⟨host, moves⟩
      simp only [Cell.access_of_not_remembered remembered, moves] at run
      exact ⟨_, _, congrArg Prod.snd run⟩

/-- A question changes what is kept of files, and the machine, and nothing else. -/
theorem askBy_moves (key : Key) (world : World) :
    ∃ sources cache host, ((askBy resolver key).run world).2 =
      { world with virtualSources := sources, cache := cache, host := host } := by
  rcases world.inMemory_or key.id with inMemory | ⟨other, unshadowed⟩
  · rcases run_askBy_of_inMemory resolver inMemory with ⟨outcome, sources, _, run⟩
    rw [run]
    exact ⟨sources, world.cache, world.host, rfl⟩
  · rcases run_askBy_of_unshadowed resolver other unshadowed with ⟨sources, run⟩
    rcases cachedBy_moves resolver key { world with virtualSources := sources } with
      ⟨cache, host, moves⟩
    rw [run, moves]
    exact ⟨sources, cache, host, rfl⟩

end World

end Typeset
