import Typeset.Proofs.World.Answers

/-!
# Sources at hand

Within a period a source that was handed out is at hand: it is handed out again,
whatever was asked in between and whatever became of the machine. The same holds of
the error of a file that could not be read.
-/

namespace Typeset.World

open FileCache

variable {world before after : World}

/-! ## What a question leaves alone -/

/-- Everything that is kept for other keys than the one that was asked. -/
structure Leaves (key : Key) (before after : World) : Prop where
  mainSource : after.mainSource = before.mainSource
  overlay : after.overlay = before.overlay
  generation : after.cache.generation = before.cache.generation
  cell : ∀ other, other ≠ key → after.cache.cell other = before.cache.cell other
  virtual : ∀ id, ⟨id, .source⟩ ≠ key → after.virtualSource? id = before.virtualSource? id

theorem virtualSource?_dropVirtualSource_of_ne {id other : FileId} (different : other ≠ id)
    (world : World) : (world.dropVirtualSource id).virtualSource? other =
      world.virtualSource? other := by
  simp only [virtualSource?, dropVirtualSource, List.find?_filter]
  congr 2
  funext entry
  by_cases wanted : entry.1 = other
  · simp [wanted, different]
  · simp [wanted]

@[simp]
theorem virtualSource?_keeping (world : World) (id : FileId) (content : Bytes) (source : Source) :
    (world.keeping id content source).virtualSource? id = some (content, source) := by
  simp [virtualSource?, keeping]

theorem virtualSource?_keeping_of_ne {id other : FileId} (different : other ≠ id) (world : World)
    (content : Bytes) (source : Source) :
    (world.keeping id content source).virtualSource? other = world.virtualSource? other := by
  rw [← virtualSource?_dropVirtualSource_of_ne different world]
  simp [virtualSource?, keeping, Ne.symm different]

theorem cached_leaves (key : Key) (world : World) :
    ∃ cell host, ((cached key).run world).2 =
      { world with cache := world.cache.withCell key cell, host := host } := by
  rcases run_cached key world with ⟨records, run⟩
  cases remembered : (world.cache.cell key).remembered? world.cache.generation with
  | some answer =>
      simp only [Cell.access_of_remembered remembered] at run
      exact ⟨_, _, congrArg Prod.snd run⟩
  | none =>
      rcases run_read key.id world with ⟨host, moves, _⟩
      simp only [Cell.access_of_not_remembered remembered, moves] at run
      exact ⟨_, _, congrArg Prod.snd run⟩

theorem leaves_cached (key : Key) (world : World) :
    Leaves key world ((cached key).run world).2 := by
  rcases cached_leaves key world with ⟨cell, host, moves⟩
  rw [moves]
  refine ⟨rfl, rfl, ?_, ?_, fun _ _ => rfl⟩
  · exact generation_withCell _ _ _
  · intro other different
    exact cell_withCell_of_ne _ different _

theorem leaves_virtualSource (id : FileId) (content : Bytes) (world : World) :
    Leaves ⟨id, .source⟩ world ((virtualSource id content).run world).2 := by
  by_cases same : ∃ source, world.virtualSource? id = some (content, source)
  · rcases same with ⟨source, known⟩
    rw [run_virtualSource_of_same known]
    exact ⟨rfl, rfl, rfl, fun _ _ => rfl, fun _ _ => rfl⟩
  · have changed (source : Source) : world.virtualSource? id ≠ some (content, source) :=
      fun known => same ⟨source, known⟩
    rw [run_virtualSource_of_changed changed]
    split
    · next source _ =>
        refine ⟨rfl, rfl, rfl, fun _ _ => rfl, ?_⟩
        intro other different
        apply virtualSource?_keeping_of_ne
        rintro rfl
        exact different rfl
    · exact ⟨rfl, rfl, rfl, fun _ _ => rfl, fun _ _ => rfl⟩

/-- A question changes only what is kept for its own key. -/
theorem leaves_ask (key : Key) (world : World) : Leaves key world ((ask key).run world).2 := by
  rcases key with ⟨id, kind⟩
  cases kind with
  | source =>
      rw [ask, run_source]
      split
      · exact ⟨rfl, rfl, rfl, fun _ _ => rfl, fun _ _ => rfl⟩
      · cases world.overlay.lookup id with
        | some content => exact leaves_virtualSource id content world
        | none =>
            rcases leaves_cached ⟨id, .source⟩ (world.dropVirtualSource id) with
              ⟨main, overlay, generation, cell, virtual⟩
            refine ⟨main, overlay, generation, cell, ?_⟩
            intro other different
            have apart : other ≠ id := by
              rintro rfl
              exact different rfl
            rw [← virtualSource?_dropVirtualSource_of_ne apart world]
            exact virtual other different
  | bytes =>
      rw [ask, run_file]
      split
      · exact ⟨rfl, rfl, rfl, fun _ _ => rfl, fun _ _ => rfl⟩
      · cases world.overlay.lookup id with
        | some content => exact ⟨rfl, rfl, rfl, fun _ _ => rfl, fun _ _ => rfl⟩
        | none => exact leaves_cached ⟨id, .bytes⟩ world

/-! ## What a world gives -/

/-- The source that a world gives for a file, unless there is none. -/
def source? (world : World) (id : FileId) : Option Source :=
  match ((source id).run world).1 with
  | .value source => some source
  | _ => none

/-- What a world answers to the question for a source. -/
def Gives (world : World) (id : FileId) (answer : Except FileError Source) : Prop :=
  ((source id).run world).1 = .ofExcept answer

namespace Gives

variable {id : FileId} {source : Source} {answer other : Except FileError Source}

theorem source? (gives : world.Gives id (.ok source)) : world.source? id = some source := by
  rw [World.source?, gives]
  rfl

theorem source?_of_error {error : FileError} (gives : world.Gives id (.error error)) :
    world.source? id = none := by
  rw [World.source?, gives]
  rfl

theorem unique (first : world.Gives id answer) (second : world.Gives id other) :
    answer = other := by
  have same := congrArg Outcome.settled? (first.symm.trans second)
  simpa only [Outcome.settled?_ofExcept, Option.some.injEq] using same

end Gives

/-! ## Sources that need no reading -/

/-- The answer to the question for a source is known without a look at the machine. -/
inductive AtHand (world : World) : FileId → Except FileError Source → Prop where
  | main : AtHand world .main (.ok world.mainSource)
  | kept {id : FileId} {content : Bytes} {source : Source} (other : id ≠ .main)
      (shadowed : world.overlay.lookup id = some content)
      (known : world.virtualSource? id = some (content, source)) : AtHand world id (.ok source)
  | refused {id : FileId} {content : Bytes} {error : FileError} (other : id ≠ .main)
      (shadowed : world.overlay.lookup id = some content)
      (changed : ∀ source, world.virtualSource? id ≠ some (content, source))
      (undecodable : FileSlot.readText content (some id) = .error error) :
      AtHand world id (.error error)
  | remembered {id : FileId} {answer : Except FileError Source} (other : id ≠ .main)
      (unshadowed : world.overlay.lookup id = none)
      (known : (world.cache.cell ⟨id, .source⟩).remembered? world.cache.generation = some answer) :
      AtHand world id answer

namespace AtHand

variable {id : FileId} {answer : Except FileError Source}

theorem answers (atHand : world.AtHand id answer) : world.Gives id answer := by
  rw [Gives]
  cases atHand with
  | main =>
      rw [run_source, if_pos rfl]
      rfl
  | kept other shadowed known =>
      rw [run_source, if_neg other, shadowed]
      dsimp only
      rw [run_virtualSource_of_same known]
      rfl
  | refused other shadowed changed undecodable =>
      rw [run_source, if_neg other, shadowed]
      dsimp only
      simp only [run_virtualSource_of_changed changed, FileSlot.parse, undecodable]
      rfl
  | remembered other unshadowed known =>
      rw [run_source, if_neg other, unshadowed]
      rcases @run_cached_of_remembered (world.dropVirtualSource id) ⟨id, .source⟩ answer known with
        ⟨records, run⟩
      exact congrArg Prod.fst run

theorem unique {other : Except FileError Source} (first : world.AtHand id answer)
    (second : world.AtHand id other) : answer = other :=
  first.answers.unique second.answers

/-- Whether a source is at hand depends on what the world keeps for it. -/
theorem of_same (mainSource : after.mainSource = before.mainSource)
    (overlay : after.overlay = before.overlay)
    (generation : after.cache.generation = before.cache.generation)
    (cell : after.cache.cell ⟨id, .source⟩ = before.cache.cell ⟨id, .source⟩)
    (virtual : after.virtualSource? id = before.virtualSource? id)
    (atHand : before.AtHand id answer) : after.AtHand id answer := by
  cases atHand with
  | main =>
      rw [← mainSource]
      exact .main
  | kept other shadowed known =>
      exact .kept other (overlay ▸ shadowed) (virtual.trans known)
  | refused other shadowed changed undecodable =>
      exact .refused other (overlay ▸ shadowed) (by rwa [virtual]) undecodable
  | remembered other unshadowed known =>
      exact .remembered other (overlay ▸ unshadowed) (by rwa [cell, generation])

end AtHand

variable {id : FileId} {answer : Except FileError Source}

theorem atHand_virtualSource {content : Bytes} (other : id ≠ .main)
    (shadowed : world.overlay.lookup id = some content)
    (gives : ((virtualSource id content).run world).1 = .ofExcept answer) :
    ((virtualSource id content).run world).2.AtHand id answer := by
  by_cases same : ∃ source, world.virtualSource? id = some (content, source)
  · rcases same with ⟨source, known⟩
    rw [run_virtualSource_of_same known] at gives ⊢
    cases answer <;> cases gives
    exact .kept other shadowed known
  · have changed (source : Source) : world.virtualSource? id ≠ some (content, source) :=
      fun known => same ⟨source, known⟩
    rw [run_virtualSource_of_changed changed] at gives ⊢
    cases made : FileSlot.parse id content ((world.virtualSource? id).map (·.2)) with
    | value source =>
        simp only [made] at gives ⊢
        cases answer <;> cases gives
        exact .kept other shadowed (virtualSource?_keeping _ _ _ _)
    | failed error =>
        simp only [made] at gives ⊢
        cases answer <;> cases gives
        refine .refused other shadowed changed ?_
        simp only [FileSlot.parse] at made
        split at made <;> cases made
        assumption
    | broken fault =>
        simp only [made] at gives
        cases answer <;> cases gives

theorem atHand_cached (other : id ≠ .main) (unshadowed : world.overlay.lookup id = none)
    (gives : ((cached ⟨id, .source⟩).run world).1 = .ofExcept answer) :
    ((cached ⟨id, .source⟩).run world).2.AtHand id answer := by
  have leaves := leaves_cached ⟨id, .source⟩ world
  refine .remembered other (leaves.overlay ▸ unshadowed) ?_
  rw [leaves.generation]
  rcases run_cached ⟨id, .source⟩ world with ⟨records, run⟩
  cases known : (world.cache.cell ⟨id, .source⟩).remembered? world.cache.generation with
  | some held =>
      simp only [Cell.access_of_remembered known] at run
      rw [run] at gives ⊢
      rw [report]
      simp only [cell_withCell, known]
      cases held <;> cases answer <;> cases gives <;> rfl
  | none =>
      simp only [Cell.access_of_not_remembered known] at run
      rw [run] at gives ⊢
      rw [report]
      simp only [cell_withCell]
      exact Cell.remembered?_revalidate gives

/-- A source that was given is at hand from then on. -/
theorem atHand_source (gives : ((source id).run world).1 = .ofExcept answer) :
    ((source id).run world).2.AtHand id answer := by
  rw [run_source] at gives ⊢
  split at gives
  · next isMain =>
      subst isMain
      rw [if_pos rfl]
      cases answer <;> cases gives
      exact .main
  · next other =>
      rw [if_neg other]
      cases shadowed : world.overlay.lookup id with
      | some content =>
          simp only [shadowed] at gives ⊢
          exact atHand_virtualSource other shadowed gives
      | none =>
          simp only [shadowed] at gives ⊢
          exact @atHand_cached (world.dropVirtualSource id) _ _ other shadowed gives

/-- No question takes away a source that is at hand. -/
theorem AtHand.ask (atHand : world.AtHand id answer) (key : Key) :
    ((ask key).run world).2.AtHand id answer := by
  by_cases own : key = ⟨id, .source⟩
  · subst own
    exact atHand_source atHand.answers
  · rcases leaves_ask key world with ⟨main, overlay, generation, cell, virtual⟩
    exact atHand.of_same main overlay generation (cell _ (Ne.symm own)) (virtual _ (Ne.symm own))

/-! ## Sound worlds -/

variable {readings : List (Except FileError Bytes)}

/-- A source at hand is that of its file, with the bytes and line starts of its text. -/
theorem AtHand.wellFormed {source : Source} (sound : world.Sound readings)
    (atHand : world.AtHand id (.ok source)) : source.WellFormed ∧ source.id = id := by
  cases atHand with
  | main =>
      rcases Source.WellFormed.of_pristine_eq sound.main with ⟨wellFormed, ids, _⟩
      exact ⟨wellFormed, ids⟩
  | kept other shadowed known =>
      exact Key.wellFormed_of_answers (sound.virtual id _ source (mem_of_virtualSource? known))
  | remembered other unshadowed known =>
      rcases sound.backed ⟨id, .source⟩ _ (Cell.remembered?_eq_some_iff.mp known).2 with
        ⟨reading, _, _, answers⟩
      exact Key.wellFormed_of_answers answers

theorem AtHand.text_main {source : Source} (sound : world.Sound readings)
    (atHand : world.AtHand .main (.ok source)) : source.text = world.markup := by
  cases atHand.unique .main
  exact (Source.WellFormed.of_pristine_eq sound.main).2.2

/-- A source that a world gives is that of its file, with the bytes and lines of its text. -/
theorem Gives.wellFormed {source : Source} (sound : world.Sound readings)
    (gives : world.Gives id (.ok source)) : source.WellFormed ∧ source.id = id :=
  (atHand_source gives).wellFormed (sound_ask sound ⟨id, .source⟩)

/-- An outcome is at hand, unless it was broken off. -/
def Answering (world : World) (id : FileId) (outcome : Outcome Source) : Prop :=
  ∀ answer, outcome = .ofExcept answer → world.AtHand id answer

end Typeset.World
