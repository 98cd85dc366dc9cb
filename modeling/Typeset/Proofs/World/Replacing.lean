import Typeset.Proofs.World.Resolvers

/-!
# The main text and the clock in a world

Reading any other file has nothing to do with the main text or with the clock. So two
worlds that differ in these alone answer such a question alike and go on differing in
these alone.
-/

namespace Typeset

open FileCache

/-- A change of the state that means nothing to the reads means nothing to an access. -/
theorem Cell.access_commutes {α σ : Type} (cell : Cell α) (generation : Int)
    {reads : StateM σ (Outcome Bytes)} (make : Bytes → Option α → Outcome α) {change : σ → σ}
    (commutes : ∀ state,
      reads.run (change state) = ((reads.run state).1, change (reads.run state).2))
    (state : σ) :
    (cell.access generation reads make).run (change state) =
      (((cell.access generation reads make).run state).1,
        change ((cell.access generation reads make).run state).2) := by
  cases remembered : cell.remembered? generation with
  | some answer => simp only [access_of_remembered remembered]
  | none => simp only [access_of_not_remembered remembered, commutes]

namespace World

/-- A world with another main text and another clock. -/
def replacing (world : World) (markup : String) (mainSource : Source) (clock : Clock) : World :=
  { world with markup := markup, mainSource := mainSource, clock := clock }

variable (markup : String) (mainSource : Source) (clock : Clock)

theorem run_read_replacing (id : FileId) (world : World) :
    (read id).run (world.replacing markup mainSource clock) =
      (((read id).run world).1, ((read id).run world).2.replacing markup mainSource clock) := by
  rcases id with ⟨origin, path⟩
  cases origin <;> rfl

theorem run_cached_replacing (key : Key) (world : World) :
    (cached key).run (world.replacing markup mainSource clock) =
      (((cached key).run world).1,
        ((cached key).run world).2.replacing markup mainSource clock) := by
  rcases key with ⟨id, kind⟩
  have same : (world.replacing markup mainSource clock).cache = world.cache := rfl
  cases kind with
  | source =>
      have accessed := (world.cache.slot id).source.access_commutes world.cache.generation
        (FileSlot.parse id) (run_read_replacing markup mainSource clock id) world
      have split (world : World) : (cachedSource id).run world =
          let access := ((world.cache.slot id).source.access world.cache.generation (read id)
            (FileSlot.parse id)).run world
          let cache := world.cache.put id { world.cache.slot id with source := access.1.cell }
          (access.1.outcome, { access.2 with
            cache := cache
            host := (sourceRecords id ⟨access.1.outcome, cache, access.1.event⟩).foldl Host.record
              access.2.host }) := rfl
      simp only [cached, split, same, accessed]
      rfl
  | bytes =>
      have accessed := (world.cache.slot id).bytes.access_commutes world.cache.generation
        FileSlot.keep (run_read_replacing markup mainSource clock id) world
      have split (world : World) : (cachedFile id).run world =
          let access := ((world.cache.slot id).bytes.access world.cache.generation (read id)
            FileSlot.keep).run world
          let cache := world.cache.put id { world.cache.slot id with bytes := access.1.cell }
          (access.1.outcome, { access.2 with
            cache := cache
            host := (fileRecords ⟨access.1.outcome, cache, access.1.event⟩).foldl Host.record
              access.2.host }) := rfl
      simp only [cached, split, same, accessed]
      rfl

theorem run_virtualSource_replacing (id : FileId) (content : Bytes) (world : World) :
    (virtualSource id content).run (world.replacing markup mainSource clock) =
      (((virtualSource id content).run world).1,
        ((virtualSource id content).run world).2.replacing markup mainSource clock) := by
  have known : (world.replacing markup mainSource clock).virtualSource? id =
      world.virtualSource? id := rfl
  by_cases same : ∃ source, world.virtualSource? id = some (content, source)
  · rcases same with ⟨source, found⟩
    rw [run_virtualSource_of_same (known.trans found), run_virtualSource_of_same found]
  · have changed (source : Source) : world.virtualSource? id ≠ some (content, source) :=
      fun found => same ⟨source, found⟩
    have alsoChanged (source : Source) :
        (world.replacing markup mainSource clock).virtualSource? id ≠ some (content, source) := by
      rw [known]
      exact changed source
    rw [run_virtualSource_of_changed changed, run_virtualSource_of_changed alsoChanged, known]
    split <;> rfl

/-- No other file looks at the main text or at the clock, or changes them. -/
theorem run_ask_replacing {key : Key} (other : key.id ≠ .main) (world : World) :
    (ask key).run (world.replacing markup mainSource clock) =
      (((ask key).run world).1, ((ask key).run world).2.replacing markup mainSource clock) := by
  have overlay : (world.replacing markup mainSource clock).overlay = world.overlay := rfl
  rcases key with ⟨id, kind⟩
  cases kind with
  | source =>
      simp only [ask, run_source, if_neg other, overlay]
      cases world.overlay.lookup id with
      | some content => apply run_virtualSource_replacing
      | none =>
          exact run_cached_replacing markup mainSource clock ⟨id, .source⟩
            (world.dropVirtualSource id)
  | bytes =>
      simp only [ask, run_file, if_neg other, overlay]
      cases world.overlay.lookup id with
      | some content => rfl
      | none => exact run_cached_replacing markup mainSource clock ⟨id, .bytes⟩ world

/-- A question for a file changes neither the main text nor the clock. -/
theorem ask_keeps (key : Key) (world : World) :
    ((ask key).run world).2.markup = world.markup ∧
      ((ask key).run world).2.mainSource = world.mainSource ∧
      ((ask key).run world).2.clock = world.clock := by
  have same : ask key = askBy .preparing key := by
    rcases key with ⟨id, kind⟩
    cases kind with
    | source => exact congrFun source_eq_sourceBy id
    | bytes => exact congrFun file_eq_fileBy id
  rcases askBy_moves .preparing key world with ⟨sources, cache, host, moved⟩
  simp only [same, moved, and_self]

theorem run_ask_of_clock (key : Key) (world : World) :
    (ask key).run { world with clock := clock } =
      (((ask key).run world).1, { ((ask key).run world).2 with clock := clock }) := by
  by_cases main : key.id = .main
  · rcases key with ⟨id, kind⟩
    cases kind <;> simp only [ask, run_source, run_file, if_pos main]
  · rcases ask_keeps key world with ⟨markup, mainSource, _⟩
    have same : ((ask key).run world).2.replacing world.markup world.mainSource clock =
        { ((ask key).run world).2 with clock := clock } := by
      rw [← markup, ← mainSource]
      rfl
    exact (run_ask_replacing world.markup world.mainSource clock main world).trans
      (congrArg (Prod.mk _) same)

theorem run_font_of_clock (index : Int) (world : World) :
    (font index).run { world with clock := clock } =
      (((font index).run world).1, { ((font index).run world).2 with clock := clock }) := by
  simp only [font, StateT.run_bind, StateT.run_get, pure_bind]
  cases if 0 ≤ index then world.fonts.slots[index.toNat]? else none <;> rfl

end World

end Typeset
