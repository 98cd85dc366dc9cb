import Typeset.Proofs.World.Reads

/-!
# Sound worlds

Three things in a world are kept from one question to the next: the source of the
main text, the sources of virtual files, and the cells of the cache. In a sound world
each of them answers something that was true once. Within a period the cells are
moreover current: what they remember of the period answers what is on disk.

The readings are those whose fingerprints were taken, newest first.
-/

namespace Typeset.World

open FileCache

variable {world : World} {readings more : List (Except FileError Bytes)}

/-- Nothing that a world keeps was ever wrong. -/
structure Sound (readings : List (Except FileError Bytes)) (world : World) : Prop where
  main : world.mainSource.pristine = .ofText .main world.markup
  virtual : ∀ id content source, (id, content, source) ∈ world.virtualSources →
    Key.Answers ⟨id, .source⟩ (.ok content) (.ok source)
  backed : ∀ key, Backed key readings (world.cache.cell key)
  entered : ∀ key generation, (world.cache.cell key).generation = some generation →
    generation ≤ world.cache.generation
  blocked : ∀ key : Key, world.Blocked key.id → (world.cache.cell key).answer = none

/-- What the cells remember of the current period answers what is on disk. -/
def Current (world : World) : Prop :=
  ∀ key answer, (world.cache.cell key).remembered? world.cache.generation = some answer →
    ∃ reading, world.plainRead key.id = .ofExcept reading ∧ key.Answers reading answer

/-- Nothing that is kept depends on what lies outside. -/
theorem Sound.elsewhere (sound : world.Sound readings) (inputs : List (String × String))
    (fonts : Fonts) (overlay : Overlay) (clock : Clock) (host : Host) :
    Sound readings { world with
      inputs := inputs, fonts := fonts, overlay := overlay, clock := clock, host := host } :=
  ⟨sound.main, sound.virtual, sound.backed, sound.entered, sound.blocked⟩

theorem Sound.withCell (sound : world.Sound readings) (subset : readings ⊆ more) {key : Key}
    {cell : Cell key.kind.Value} (backed : Backed key more cell)
    (entered : ∀ generation, cell.generation = some generation →
      generation ≤ world.cache.generation)
    (blocked : world.Blocked key.id → cell.answer = none) (host : Host) :
    Sound more { world with cache := world.cache.withCell key cell, host := host } where
  main := sound.main
  virtual := sound.virtual
  backed other := by
    by_cases same : other = key
    · subst same
      simpa using backed
    · simpa [cell_withCell_of_ne _ same] using (sound.backed other).mono subset
  entered other := by
    by_cases same : other = key
    · subst same
      simpa using entered
    · simpa [cell_withCell_of_ne _ same] using sound.entered other
  blocked other isBlocked := by
    by_cases same : other = key
    · subst same
      simpa using blocked isBlocked
    · simpa [cell_withCell_of_ne _ same] using sound.blocked other isBlocked

/-! ## New worlds, periods and texts -/

theorem Sound.make (readings : List (Except FileError Bytes)) (root : HostPath) (fonts : Fonts)
    (packages : PackageStorage) (clock : Clock) (host : Host) :
    (World.make root fonts packages clock host).Sound readings where
  main := rfl
  virtual _ _ _ member := by cases member
  backed key := by
    simp only [World.make, cell_empty]
    exact Backed.empty key readings
  entered key generation entered := by
    simp only [World.make, cell_empty] at entered
    cases entered
  blocked key _ := by
    simp only [World.make, cell_empty]
    rfl

theorem Sound.not_remembered_next (sound : world.Sound readings) (key : Key) :
    (world.cache.reset.cell key).remembered? world.cache.reset.generation = none := by
  rw [cell_reset, Cell.remembered?, if_neg]
  intro same
  have bound := sound.entered key _ same
  simp only [FileCache.reset] at bound
  omega

theorem Sound.nextPeriod (sound : world.Sound readings) (clock : Clock) (host : Host) :
    Sound readings { world with cache := world.cache.reset, clock := clock, host := host } where
  main := sound.main
  virtual := sound.virtual
  backed key := by
    simp only [cell_reset]
    exact sound.backed key
  entered key generation same := by
    simp only [cell_reset] at same
    have bound := sound.entered key generation same
    simp only [FileCache.reset]
    omega
  blocked key blocked := by
    simp only [cell_reset]
    exact sound.blocked key blocked

theorem Sound.current_nextPeriod (sound : world.Sound readings) (clock : Clock) (host : Host) :
    Current { world with cache := world.cache.reset, clock := clock, host := host } := by
  intro key answer remembered
  simp only [sound.not_remembered_next key] at remembered
  cases remembered

theorem Sound.setMarkup (sound : world.Sound readings) (markup : String) :
    ((World.setMarkup markup).run world).2.Sound readings := by
  have edited : Sound readings { world with
      markup := markup, mainSource := (world.mainSource.replace markup).1 } := by
    refine ⟨?_, sound.virtual, sound.backed, sound.entered, sound.blocked⟩
    rcases Source.WellFormed.of_pristine_eq sound.main with ⟨wellFormed, id, _⟩
    have kept := wellFormed.replace markup
    simp only [Source.WellFormed, Source.id_replace, Source.text_replace, id] at kept
    exact kept
  apply edited.nextPeriod

/-! ## Files of the cache -/

/-- What the cache gives for a key. -/
def cached : (key : Key) → StateM World (Outcome key.kind.Value)
  | ⟨id, .source⟩ => cachedSource id
  | ⟨id, .bytes⟩ => cachedFile id

/-- The readings whose fingerprints are taken when the cache is asked for a key. -/
def cachedLoads (world : World) (key : Key) : List (Except FileError Bytes) :=
  match (world.cache.cell key).remembered? world.cache.generation with
  | some _ => []
  | none => ((read key.id).run world).1.settled?.toList

theorem run_cached (key : Key) (world : World) :
    ∃ records, (cached key).run world =
      let access := ((world.cache.cell key).access world.cache.generation (read key.id)
        key.make).run world
      (access.1.outcome,
        { access.2 with cache := world.cache.withCell key access.1.cell }.report records) := by
  rcases key with ⟨id, kind⟩
  cases kind with
  | source =>
      exact ⟨sourceRecords id _, rfl⟩
  | bytes => exact ⟨fileRecords _, rfl⟩

theorem run_cached_of_remembered {key : Key} {answer : Except FileError key.kind.Value}
    (remembered : (world.cache.cell key).remembered? world.cache.generation = some answer) :
    ∃ records, (cached key).run world =
      (.ofExcept answer, { world with
        cache := world.cache.withCell key (world.cache.cell key) }.report records) := by
  rcases run_cached key world with ⟨records, run⟩
  simp only [Cell.access_of_remembered remembered] at run
  exact ⟨records, run⟩

theorem run_cached_of_not_remembered {key : Key}
    (forgotten : (world.cache.cell key).remembered? world.cache.generation = none) :
    ∃ host,
      (let access := (world.cache.cell key).revalidate world.cache.generation
        ((read key.id).run world).1 key.make
      (cached key).run world =
        (access.outcome,
          { world with cache := world.cache.withCell key access.cell, host := host })) ∧
      ((((read key.id).run world).1 = world.plainRead key.id ∧
        host.disk = world.host.disk ∧ host.responses = world.host.responses) ∨
      ∃ response, world.host.responses = response :: host.responses) := by
  rcases run_cached key world with ⟨records, run⟩
  rcases run_read key.id world with ⟨host, moves, gives⟩
  rcases disk_foldl_record records host with ⟨disk, responses⟩
  simp only [Cell.access_of_not_remembered forgotten, moves] at run
  refine ⟨records.foldl Host.record host, run, ?_⟩
  simp only [disk, responses]
  exact gives

theorem cached_moves (world : World) (key : Key) :
    ∃ cache host, ((cached key).run world).2 = { world with cache := cache, host := host } ∧
      (host.responses = world.host.responses ∨
        ∃ response, world.host.responses = response :: host.responses) := by
  cases remembered : (world.cache.cell key).remembered? world.cache.generation with
  | some answer =>
      rcases run_cached_of_remembered remembered with ⟨records, run⟩
      exact ⟨_, _, by rw [run, report], .inl (disk_foldl_record records world.host).2⟩
  | none =>
      rcases run_cached_of_not_remembered remembered with ⟨host, run, ⟨_, _, quiet⟩ | taken⟩
      · exact ⟨_, host, by rw [run], .inl quiet⟩
      · exact ⟨_, host, by rw [run], .inr taken⟩

theorem sound_cached (sound : world.Sound readings) (key : Key) :
    Sound (world.cachedLoads key ++ readings) ((cached key).run world).2 := by
  simp only [cachedLoads]
  cases remembered : (world.cache.cell key).remembered? world.cache.generation with
  | some answer =>
      rcases run_cached_of_remembered remembered with ⟨records, run⟩
      simp only [run]
      exact sound.withCell (List.Subset.refl _) (sound.backed key) (sound.entered key)
        (sound.blocked key) _
  | none =>
      rcases run_cached_of_not_remembered remembered with ⟨host, run, _⟩
      simp only [run]
      have entered (generation : Int)
          (equal : some (world.cache.generation : Int) = some generation) :
          generation ≤ world.cache.generation := by
        cases equal
        apply Int.le_refl
      rcases ((read key.id).run world).1.broken_or_ofExcept with
        ⟨fault, broken⟩ | ⟨reading, completed⟩
      · simp only [broken]
        refine sound.withCell (List.Subset.refl _) ?_ ?_ ?_ host
        · exact sound.backed key
        · exact entered
        · exact sound.blocked key
      · simp only [completed, Outcome.settled?_ofExcept, Cell.revalidate_ofExcept]
        have backed : Backed key readings
            { world.cache.cell key with generation := some (world.cache.generation : Int) } :=
          sound.backed key
        rcases backed.takeIn reading with ⟨answer, _, held, _, kept, _⟩
        refine sound.withCell (List.subset_cons_self reading readings) kept ?_ ?_ host
        · simp only [Cell.generation_takeIn]
          exact entered
        · intro blocked
          simp only [run_read_of_blocked blocked] at completed
          cases reading <;> cases completed

theorem of_quiet {P : Prop} {before after : Host}
    (either : P ∨ ∃ response, before.responses = response :: after.responses)
    (quiet : after.responses = before.responses) : P := by
  rcases either with holds | ⟨response, taken⟩
  · exact holds
  · have lengths := congrArg List.length (taken.trans (congrArg _ quiet))
    simp at lengths

theorem Current.withCell (current : world.Current) {key : Key} {cell : Cell key.kind.Value}
    (good : ∀ answer, cell.remembered? world.cache.generation = some answer →
      ∃ reading, world.plainRead key.id = .ofExcept reading ∧ key.Answers reading answer)
    {host : Host} (disk : host.disk = world.host.disk) :
    Current { world with cache := world.cache.withCell key cell, host := host } := by
  intro other answer remembered
  have plain : plainRead { world with
      cache := world.cache.withCell key cell, host := host } other.id =
      world.plainRead other.id := by
    simp only [plainRead, plainPath, plainRoot, disk]
  simp only [plain]
  by_cases same : other = key
  · subst same
    simp only [cell_withCell, generation_withCell] at remembered
    exact good answer remembered
  · simp only [cell_withCell_of_ne _ same, generation_withCell] at remembered
    exact current other answer remembered

/--
In a sound and current world the cache gives what is on disk, and the world stays
current unless a read of a package breaks off.
-/
theorem cached_answers (sound : world.Sound readings) (current : world.Current) {key : Key}
    (free : CollisionFree (world.cachedLoads key ++ readings))
    (quiet : ((cached key).run world).2.host.responses = world.host.responses) :
    ((cached key).run world).1.seen key.kind.shown =
        (key.answerOutcome (world.plainRead key.id)).seen key.kind.shown ∧
      ((cached key).run world).2.host.disk = world.host.disk ∧
      (((cached key).run world).2.Current ∨
        ∃ fault, ((cached key).run world).1 = .broken fault ∧
          (key.id.Steady → ∀ message, fault ≠ .invalidValue message)) := by
  simp only [cachedLoads] at free
  cases remembered : (world.cache.cell key).remembered? world.cache.generation with
  | some answer =>
      rcases run_cached_of_remembered remembered with ⟨records, run⟩
      rcases current key answer remembered with ⟨reading, plain, answers⟩
      rcases disk_foldl_record records world.host with ⟨disk, _⟩
      simp only [run, plain, Key.answerOutcome_ofExcept]
      refine ⟨answers, disk, .inl (current.withCell ?_ disk)⟩
      intro held
      exact current key held
  | none =>
      rcases run_cached_of_not_remembered remembered with ⟨host, run, gives⟩
      simp only [run] at quiet
      rcases of_quiet gives quiet with ⟨plain, disk, _⟩
      simp only [plain] at run
      rw [remembered] at free
      dsimp only at free
      simp only [plain] at free
      simp only [run]
      rcases (world.plainRead key.id).broken_or_ofExcept with ⟨fault, broken⟩ | ⟨reading, completed⟩
      · simp only [broken]
        refine ⟨rfl, disk, ?_⟩
        -- a cell that holds an answer is marked all the same, and would give it from now on
        cases filled : (world.cache.cell key).answer with
        | none =>
            refine .inl (current.withCell ?_ disk)
            intro answer held
            simp [Cell.remembered?, filled] at held
        | some answer =>
            refine .inr ⟨fault, rfl, ?_⟩
            rintro steady message rfl
            have empty := sound.blocked key (blocked_of_plainRead steady broken)
            cases filled.symm.trans empty
      · have backed : Backed key readings
            { world.cache.cell key with generation := some (world.cache.generation : Int) } :=
          sound.backed key
        simp only [completed, Outcome.settled?_ofExcept] at free
        rcases backed.takeIn reading with ⟨answer, outcome, held, _, _, answers⟩
        simp only [completed, Cell.revalidate_ofExcept, outcome, Key.answerOutcome_ofExcept]
        refine ⟨answers free, disk, .inl (current.withCell ?_ disk)⟩
        intro given known
        rw [Cell.remembered?, Cell.generation_takeIn, if_pos rfl, held] at known
        cases known
        exact ⟨reading, completed, answers free⟩

end Typeset.World
