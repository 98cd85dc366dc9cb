import Typeset.Proofs.World.Sound

/-!
# Answers of a world

A file is the main text, a virtual file, or one that the cache reads. For each of
these a sound and current world answers like one that keeps nothing: whatever was
asked and changed before, the answer is that to the bytes which are there now.
-/

namespace Typeset

open FileCache

def FileCache.Key.mainAnswer (markup : String) : (key : Key) → key.kind.Value
  | ⟨_, .source⟩ => .ofText .main markup
  | ⟨_, .bytes⟩ => Text.Utf8.encode markup.toList

namespace World

variable {world : World} {readings : List (Except FileError Bytes)}

/-- What a world gives for a key. -/
def ask : (key : Key) → StateM World (Outcome key.kind.Value)
  | ⟨id, .source⟩ => source id
  | ⟨id, .bytes⟩ => file id

/-- The readings whose fingerprints are taken when a world is asked for a key. -/
def loads (world : World) (key : Key) : List (Except FileError Bytes) :=
  if key.id = .main ∨ (world.overlay.lookup key.id).isSome then [] else world.cachedLoads key

/-- The answer of a world that keeps nothing. -/
def plain (world : World) (key : Key) : Outcome key.kind.Value :=
  if key.id = .main then .value (key.mainAnswer world.markup)
  else
    match world.overlay.lookup key.id with
    | some content => .ofExcept (key.answer (.ok content))
    | none => key.answerOutcome (world.plainRead key.id)

theorem Agrees.plain {left right : World} (agree : left.Agrees right) (key : Key) :
    left.plain key = right.plain key := by
  have files : left.overlay.lookup key.id = right.overlay.lookup key.id := by
    simp only [Overlay.lookup]
    split
    · apply agree.files
    · rfl
  simp only [World.plain, agree.markup, files, agree.plainRead]

/-! ## Virtual files -/

/-- A world that keeps the source of a virtual file. -/
def keeping (world : World) (id : FileId) (content : Bytes) (source : Source) : World :=
  { world with
    virtualSources := (id, content, source) :: (world.dropVirtualSource id).virtualSources }

theorem run_virtualSource_of_same {id : FileId} {content : Bytes} {source : Source}
    (known : world.virtualSource? id = some (content, source)) :
    (virtualSource id content).run world = (.value source, world) := by
  simp only [virtualSource, StateT.run_bind, StateT.run_get, pure_bind, known, if_true]
  rfl

theorem run_virtualSource_of_changed {id : FileId} {content : Bytes}
    (changed : ∀ source, world.virtualSource? id ≠ some (content, source)) :
    (virtualSource id content).run world =
      match FileSlot.parse id content ((world.virtualSource? id).map (·.2)) with
      | .value source => (.value source, world.keeping id content source)
      | outcome => (outcome, world) := by
  simp only [virtualSource, StateT.run_bind, StateT.run_get, pure_bind, FileSlot.parse]
  cases known : world.virtualSource? id with
  | none => cases FileSlot.readText content (some id) <;> rfl
  | some entry =>
      rcases entry with ⟨old, source⟩
      have different : old ≠ content := by
        rintro rfl
        exact changed source known
      dsimp only
      simp only [if_neg different]
      cases FileSlot.readText content (some id) <;> rfl

theorem mem_of_virtualSource? {id : FileId} {entry : Bytes × Source}
    (known : world.virtualSource? id = some entry) : (id, entry) ∈ world.virtualSources := by
  simp only [virtualSource?, Option.map_eq_some_iff] at known
  rcases known with ⟨⟨other, found⟩, first, rfl⟩
  have same := List.find?_some first
  simp only [beq_iff_eq] at same
  rw [← same]
  exact List.mem_of_find?_eq_some first

theorem Sound.of_virtual {sources : List (FileId × Bytes × Source)} (sound : world.Sound readings)
    (virtual : ∀ id content source, (id, content, source) ∈ sources →
      Key.Answers ⟨id, .source⟩ (.ok content) (.ok source)) :
    Sound readings { world with virtualSources := sources } :=
  ⟨sound.main, virtual, sound.backed, sound.entered, sound.blocked⟩

theorem Sound.dropVirtualSource (sound : world.Sound readings) (id : FileId) :
    (world.dropVirtualSource id).Sound readings := by
  apply sound.of_virtual
  intro other content source member
  exact sound.virtual other content source (List.mem_filter.mp member).1

theorem Sound.keeping (sound : world.Sound readings) {id : FileId} {content : Bytes}
    {source : Source} (answers : Key.Answers ⟨id, .source⟩ (.ok content) (.ok source)) :
    (world.keeping id content source).Sound readings := by
  apply sound.of_virtual
  intro other content' source' member
  cases member with
  | head => exact answers
  | tail _ member => exact (sound.dropVirtualSource id).virtual other content' source' member

theorem virtualSource_answers (sound : world.Sound readings) (id : FileId) (content : Bytes) :
    ∃ answer sources, (virtualSource id content).run world =
        (.ofExcept answer, { world with virtualSources := sources }) ∧
      Key.Answers ⟨id, .source⟩ (.ok content) answer ∧
      Sound readings { world with virtualSources := sources } := by
  by_cases same : ∃ source, world.virtualSource? id = some (content, source)
  · rcases same with ⟨source, known⟩
    have answers := sound.virtual id content source (mem_of_virtualSource? known)
    exact ⟨.ok source, world.virtualSources, run_virtualSource_of_same known, answers, sound⟩
  · have changed (source : Source) : world.virtualSource? id ≠ some (content, source) :=
      fun known => same ⟨source, known⟩
    have previous : ∀ source, (world.virtualSource? id).map (·.2) = some source →
        ∃ reading, Key.Answers ⟨id, .source⟩ reading (.ok source) := by
      intro source kept
      rcases Option.map_eq_some_iff.mp kept with ⟨⟨old, _⟩, known, rfl⟩
      exact ⟨.ok old, sound.virtual id old _ (mem_of_virtualSource? known)⟩
    rcases @Key.make_answers ⟨id, .source⟩ content _ previous with ⟨answer, made, answers⟩
    have run := run_virtualSource_of_changed changed
    rw [show FileSlot.parse id content _ = _ from made] at run
    cases answer with
    | error error => exact ⟨.error error, world.virtualSources, run, answers, sound⟩
    | ok source => exact ⟨.ok source, _, run, answers, sound.keeping answers⟩

/-! ## Any file -/

theorem run_source (id : FileId) (world : World) :
    (source id).run world =
      if id = .main then (.value world.mainSource, world)
      else
        match world.overlay.lookup id with
        | some content => (virtualSource id content).run world
        | none => (cachedSource id).run (world.dropVirtualSource id) := by
  simp only [source, StateT.run_bind, StateT.run_get, pure_bind]
  split
  · rfl
  · cases world.overlay.lookup id <;> rfl

theorem run_file (id : FileId) (world : World) :
    (file id).run world =
      if id = .main then (.value (Text.Utf8.encode world.markup.toList), world)
      else
        match world.overlay.lookup id with
        | some content => (.value content, world)
        | none => (cachedFile id).run world := by
  simp only [file, StateT.run_bind, StateT.run_get, pure_bind]
  split
  · rfl
  · cases world.overlay.lookup id <;> rfl

/-- A file is answered from memory, or the cache is asked for it. -/
theorem run_ask_cases (sound : world.Sound readings) (key : Key) :
    (∃ answer sources, (key.id = .main ∨ (world.overlay.lookup key.id).isSome) ∧
      (ask key).run world = (.ofExcept answer, { world with virtualSources := sources }) ∧
      (Outcome.ofExcept answer).seen key.kind.shown = (world.plain key).seen key.kind.shown ∧
      Sound readings { world with virtualSources := sources }) ∨
    ∃ sources, ¬(key.id = .main ∨ (world.overlay.lookup key.id).isSome) ∧
      (ask key).run world = (cached key).run { world with virtualSources := sources } ∧
      world.plain key = key.answerOutcome (world.plainRead key.id) ∧
      Sound readings { world with virtualSources := sources } := by
  rcases key with ⟨id, kind⟩
  by_cases main : id = .main
  · subst main
    cases kind with
    | source =>
        refine .inl ⟨.ok world.mainSource, world.virtualSources, .inl rfl, ?_, ?_, sound⟩
        · rw [ask, run_source, if_pos rfl]
          rfl
        · rw [plain, if_pos rfl]
          exact congrArg Outcome.value sound.main
    | bytes =>
        refine .inl ⟨.ok (Text.Utf8.encode world.markup.toList), world.virtualSources, .inl rfl,
          ?_, ?_, sound⟩
        · rw [ask, run_file, if_pos rfl]
          rfl
        · rw [plain, if_pos rfl]
          rfl
  · cases shadow : world.overlay.lookup id with
    | some content =>
        cases kind with
        | source =>
            rcases virtualSource_answers sound id content with
              ⟨answer, sources, run, answers, kept⟩
            refine .inl ⟨answer, sources, .inr rfl, ?_, ?_, kept⟩
            · simp only [ask, run_source, if_neg main, shadow]
              exact run
            · simp only [plain, if_neg main, shadow]
              exact answers
        | bytes =>
            refine .inl ⟨.ok content, world.virtualSources, .inr rfl, ?_, ?_, sound⟩
            · simp only [ask, run_file, if_neg main, shadow]
              rfl
            · simp only [plain, if_neg main, shadow]
              rfl
    | none =>
        have unknown : ¬(id = .main ∨ (none : Option Bytes).isSome) := by simpa using main
        cases kind with
        | source =>
            refine .inr ⟨(world.dropVirtualSource id).virtualSources, unknown, ?_, ?_,
              sound.dropVirtualSource id⟩
            · simp only [ask, run_source, if_neg main, shadow]
              rfl
            · simp only [plain, if_neg main, shadow]
        | bytes =>
            refine .inr ⟨world.virtualSources, unknown, ?_, ?_, sound⟩
            · simp only [ask, run_file, if_neg main, shadow]
              rfl
            · simp only [plain, if_neg main, shadow]

theorem cachedLoads_of_virtual (world : World) (sources : List (FileId × Bytes × Source))
    (key : Key) :
    cachedLoads { world with virtualSources := sources } key = world.cachedLoads key := by
  have reads : ((read key.id).run { world with virtualSources := sources }).1 =
      ((read key.id).run world).1 := by
    rcases key with ⟨⟨origin, path⟩, kind⟩
    cases origin <;> rfl
  simp only [cachedLoads, reads]

theorem sound_ask (sound : world.Sound readings) (key : Key) :
    Sound (world.loads key ++ readings) ((ask key).run world).2 := by
  rcases run_ask_cases sound key with
    ⟨answer, sources, shadowed, run, _, kept⟩ | ⟨sources, unshadowed, run, _, kept⟩
  · simp only [loads, if_pos shadowed, run]
    exact kept
  · rw [loads, if_neg unshadowed, run, ← cachedLoads_of_virtual world sources key]
    exact sound_cached kept key

/-- Asking for a file changes what the world keeps and what it wrote down, and nothing else. -/
theorem ask_moves (sound : world.Sound readings) (key : Key) :
    ∃ sources cache host, ((ask key).run world).2 =
        { world with virtualSources := sources, cache := cache, host := host } ∧
      (host.responses = world.host.responses ∨
        ∃ response, world.host.responses = response :: host.responses) := by
  rcases run_ask_cases sound key with ⟨answer, sources, _, run, _⟩ | ⟨sources, _, run, _⟩
  · exact ⟨sources, world.cache, world.host, by rw [run], .inl rfl⟩
  · simp only [run]
    rcases cached_moves { world with virtualSources := sources } key with
      ⟨cache, host, moves, responses⟩
    exact ⟨sources, cache, host, moves, responses⟩

/-- A sound and current world answers like one that keeps nothing. -/
theorem ask_answers (sound : world.Sound readings) (current : world.Current) {key : Key}
    (free : CollisionFree (world.loads key ++ readings))
    (quiet : ((ask key).run world).2.host.responses = world.host.responses) :
    ((ask key).run world).1.seen key.kind.shown = (world.plain key).seen key.kind.shown ∧
      ((ask key).run world).2.host.disk = world.host.disk ∧
      (((ask key).run world).2.Current ∨
        ∃ fault, ((ask key).run world).1 = .broken fault ∧
          (key.id.Steady → ∀ message, fault ≠ .invalidValue message)) := by
  rcases run_ask_cases sound key with
    ⟨answer, sources, shadowed, run, answers, kept⟩ | ⟨sources, unshadowed, run, plain, kept⟩
  · rw [run]
    exact ⟨answers, rfl, .inl current⟩
  · have still : Current { world with virtualSources := sources } := current
    rw [loads, if_neg unshadowed, ← cachedLoads_of_virtual world sources key] at free
    simp only [run] at quiet
    simp only [run, plain]
    exact cached_answers kept still free quiet

end World

end Typeset
