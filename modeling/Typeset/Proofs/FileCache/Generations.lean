import Typeset.Proofs.FileCache.Keys

/-!
# Coherence of a generation

A cache is asked for sources and bytes of files, in any order and with readings
that change as they like, and is reset now and then. Within a generation the answers
for a key are those to the reading that was executed when the key was first asked
for in it, which is the only one executed. What is remembered from earlier
generations only saves the making of an answer.

Histories list requests with the newest first.
-/

namespace Typeset.FileCache

inductive Request where
  /-- Ask for what a key names, with a reading to execute if need be. -/
  | ask (key : Key) (reading : Except FileError Bytes)
  /-- Start a new generation. -/
  | reset

structure Ask where
  key : Key
  generation : Nat
  reading : Except FileError Bytes

def loader (reading : Except FileError Bytes) :
    StateM (List (Except FileError Bytes)) (Outcome Bytes) := do
  modify (reading :: ·)
  return .ofExcept reading

/-- Ask a cache for what a key names. The list holds the reading if it was executed. -/
def visit (cache : FileCache) (key : Key) (reading : Except FileError Bytes) :
    Access key.kind.Value × List (Except FileError Bytes) :=
  (cache.ask key (loader reading)).run []

def after : List Request → FileCache
  | [] => empty
  | .ask key reading :: past => ((after past).visit key reading).1.cache
  | .reset :: past => (after past).reset

def generationAfter : List Request → Nat
  | [] => 0
  | .ask _ _ :: past => generationAfter past
  | .reset :: past => generationAfter past + 1

/-- The requests for keys among some requests. -/
def asks : List Request → List Ask
  | [] => []
  | .ask key reading :: past => ⟨key, generationAfter past, reading⟩ :: asks past
  | .reset :: past => asks past

/-- The requests for keys whose readings were executed. -/
def loads : List Request → List Ask
  | [] => []
  | .ask key reading :: past =>
      ((after past).visit key reading).2.map (⟨key, generationAfter past, ·⟩) ++ loads past
  | .reset :: past => loads past

/-- The readings that were hashed. -/
def hashed (requests : List Request) : List (Except FileError Bytes) :=
  (loads requests).map (·.reading)

/-- The readings for a key in a generation, newest first. -/
def readingsOf (asks : List Ask) (key : Key) (generation : Nat) : List (Except FileError Bytes) :=
  (asks.filter fun ask => ask.key = key ∧ ask.generation = generation).map (·.reading)

/-- The newest reading that was executed for a key. -/
def lastLoad? (requests : List Request) (key : Key) : Option (Except FileError Bytes) :=
  ((loads requests).find? (·.key = key)).map (·.reading)

/-- A request that may change the answers for a key: one for the key itself, or a reset. -/
def Request.concerns (key : Key) : Request → Bool
  | .ask asked _ => asked = key
  | .reset => true

/-! ## What a visit does -/

theorem run_loader (reading : Except FileError Bytes) :
    (loader reading).run [] = (.ofExcept reading, [reading]) := rfl

theorem visit_of_remembered {cache : FileCache} {key : Key}
    {answer : Except FileError key.kind.Value}
    (remembered : (cache.cell key).remembered? cache.generation = some answer)
    (reading : Except FileError Bytes) :
    cache.visit key reading =
      (⟨.ofExcept answer, cache.withCell key (cache.cell key), .remembered⟩, []) := by
  simp only [visit, run_ask, Cell.access_of_remembered remembered]

theorem visit_of_not_remembered {cache : FileCache} {key : Key}
    (forgotten : (cache.cell key).remembered? cache.generation = none)
    (reading : Except FileError Bytes) :
    cache.visit key reading =
      let taken :=
        { cache.cell key with generation := some cache.generation }.takeIn reading key.make
      (⟨taken.outcome, cache.withCell key taken.cell, taken.event⟩, [reading]) := by
  simp only [visit, run_ask, Cell.access_of_not_remembered forgotten, run_loader,
    Cell.revalidate_ofExcept]

@[simp]
theorem generation_visit (cache : FileCache) (key : Key) (reading : Except FileError Bytes) :
    (cache.visit key reading).1.cache.generation = cache.generation := by
  simp [visit, run_ask]

theorem cell_visit_of_ne (cache : FileCache) {key other : Key} (different : other ≠ key)
    (reading : Except FileError Bytes) :
    (cache.visit key reading).1.cache.cell other = cache.cell other := by
  simp [visit, run_ask, cell_withCell_of_ne cache different]

/-- What a visit does to the cell of its key depends on nothing but the cell and the generation. -/
theorem visit_congr {left right : FileCache} {key : Key} (cells : left.cell key = right.cell key)
    (generations : left.generation = right.generation) (reading : Except FileError Bytes) :
    (left.visit key reading).1.outcome = (right.visit key reading).1.outcome ∧
      (left.visit key reading).1.cache.cell key = (right.visit key reading).1.cache.cell key := by
  simp [visit, run_ask, cells, generations]

@[simp]
theorem generation_after (past : List Request) :
    (after past).generation = generationAfter past := by
  induction past with
  | nil => rfl
  | cons request past ih =>
      cases request with
      | ask key reading => simp [after, generationAfter, ih]
      | reset => simp [after, generationAfter, reset, ih]

theorem visit_after_of_remembered {past : List Request} {key : Key}
    {answer : Except FileError key.kind.Value}
    (remembered : ((after past).cell key).remembered? (generationAfter past) = some answer)
    (reading : Except FileError Bytes) :
    (after past).visit key reading =
      (⟨.ofExcept answer, (after past).withCell key ((after past).cell key), .remembered⟩, []) := by
  rw [← generation_after] at remembered
  exact visit_of_remembered remembered reading

/-- The cell of a key, marked with the present generation. -/
def marked (past : List Request) (key : Key) : Cell key.kind.Value :=
  { (after past).cell key with generation := some (generationAfter past : Int) }

theorem visit_after_of_not_remembered {past : List Request} {key : Key}
    (forgotten : ((after past).cell key).remembered? (generationAfter past) = none)
    (reading : Except FileError Bytes) :
    (after past).visit key reading =
      let taken := (marked past key).takeIn reading key.make
      (⟨taken.outcome, (after past).withCell key taken.cell, taken.event⟩, [reading]) := by
  rw [← generation_after] at forgotten
  simp only [visit_of_not_remembered forgotten, generation_after]
  rfl

theorem concerns_ask_iff (key asked : Key) (reading : Except FileError Bytes) :
    (Request.ask asked reading).concerns key = true ↔ asked = key :=
  decide_eq_true_iff

theorem concerns_reset (key : Key) : Request.reset.concerns key = true := rfl

theorem cell_after_filter (past : List Request) (key : Key) :
    (after (past.filter (·.concerns key))).cell key = (after past).cell key ∧
      generationAfter (past.filter (·.concerns key)) = generationAfter past := by
  induction past with
  | nil => exact ⟨rfl, rfl⟩
  | cons request past ih =>
      rcases ih with ⟨cells, generations⟩
      cases request with
      | reset =>
          simp only [List.filter_cons_of_pos (concerns_reset key)]
          simp [after, generationAfter, cells, generations]
      | ask asked reading =>
          by_cases same : asked = key
          · subst same
            have kept := (visit_congr cells (by simp [generations]) reading).2
            rw [List.filter_cons_of_pos ((concerns_ask_iff asked asked reading).mpr rfl)]
            exact ⟨kept, generations⟩
          · have kept := cell_visit_of_ne (after past) (Ne.symm same) reading
            rw [List.filter_cons_of_neg (same ∘ (concerns_ask_iff key asked reading).mp)]
            exact ⟨cells.trans kept.symm, generations⟩

/-! ## Histories -/

theorem readingsOf_cons_self (key : Key) (generation : Nat) (reading : Except FileError Bytes)
    (asks : List Ask) :
    readingsOf (⟨key, generation, reading⟩ :: asks) key generation =
      reading :: readingsOf asks key generation := by
  simp [readingsOf]

theorem readingsOf_cons_of_ne {ask : Ask} {key : Key} {generation : Nat}
    (different : ask.key ≠ key ∨ ask.generation ≠ generation) (asks : List Ask) :
    readingsOf (ask :: asks) key generation = readingsOf asks key generation := by
  rw [readingsOf, List.filter_cons_of_neg]
  · rfl
  · simpa [Classical.or_iff_not_imp_left] using different

theorem readingsOf_asks_of_lt {past : List Request} {generation : Nat}
    (future : generationAfter past < generation) (key : Key) :
    readingsOf (asks past) key generation = [] := by
  induction past with
  | nil => rfl
  | cons request past ih =>
      cases request with
      | ask asked reading =>
          have before : generationAfter past < generation := future
          rw [asks, readingsOf_cons_of_ne (.inr (Nat.ne_of_lt before)), ih before]
      | reset => exact ih (Nat.lt_of_succ_lt future)

theorem loads_ask_of_remembered {past : List Request} {key : Key}
    {answer : Except FileError key.kind.Value}
    (remembered : ((after past).cell key).remembered? (generationAfter past) = some answer)
    (reading : Except FileError Bytes) : loads (.ask key reading :: past) = loads past := by
  simp only [loads, visit_after_of_remembered remembered]
  rfl

theorem loads_ask_of_not_remembered {past : List Request} {key : Key}
    (forgotten : ((after past).cell key).remembered? (generationAfter past) = none)
    (reading : Except FileError Bytes) :
    loads (.ask key reading :: past) = ⟨key, generationAfter past, reading⟩ :: loads past := by
  simp only [loads, visit_after_of_not_remembered forgotten]
  rfl

theorem loads_ask_cases (past : List Request) (key : Key) (reading : Except FileError Bytes) :
    loads (.ask key reading :: past) = loads past ∨
      loads (.ask key reading :: past) = ⟨key, generationAfter past, reading⟩ :: loads past := by
  cases remembered : ((after past).cell key).remembered? (generationAfter past) with
  | some answer => exact .inl (loads_ask_of_remembered remembered reading)
  | none => exact .inr (loads_ask_of_not_remembered remembered reading)

theorem hashed_subset (request : Request) (past : List Request) :
    hashed past ⊆ hashed (request :: past) := by
  cases request with
  | reset => exact fun _ member => member
  | ask key reading =>
      rcases loads_ask_cases past key reading with same | more
      · simp only [hashed, same]
        exact fun _ member => member
      · simp only [hashed, more]
        exact fun _ member => List.mem_cons_of_mem _ member

/-- What a cell has to do with the requests so far. -/
structure Coherent (past : List Request) (key : Key) : Prop where
  entered : ∀ generation, ((after past).cell key).generation = some generation →
    generation ≤ generationAfter past
  backed : Backed key (hashed past) ((after past).cell key)
  last : (((after past).cell key).answer = none ∧ lastLoad? past key = none) ∨
    ∃ answer reading, ((after past).cell key).answer = some answer ∧
      lastLoad? past key = some reading ∧
      ((after past).cell key).fingerprint = some (fingerprint reading)
  unasked : ((after past).cell key).remembered? (generationAfter past) = none →
    readingsOf (asks past) key (generationAfter past) = []
  answered : ∀ answer,
    ((after past).cell key).remembered? (generationAfter past) = some answer →
    ∃ first, (readingsOf (asks past) key (generationAfter past)).getLast? = some first ∧
      (CollisionFree (hashed past) → key.Answers first answer)
  loaded : ∀ generation, readingsOf (loads past) key generation =
    (readingsOf (asks past) key generation).getLast?.toList

theorem coherent_nil (key : Key) : Coherent [] key where
  entered generation entered := by
    simp only [after, cell_empty] at entered
    cases entered
  backed := by
    simp only [after, cell_empty]
    exact Backed.empty key _
  last := by
    simp only [after, cell_empty]
    exact .inl ⟨rfl, rfl⟩
  unasked _ := rfl
  answered answer remembered := by
    simp only [after, cell_empty] at remembered
    cases remembered
  loaded _ := rfl

namespace Coherent

variable {past : List Request} {key : Key}

theorem not_remembered_next (coherent : Coherent past key) :
    ((after past).cell key).remembered? (generationAfter past + 1 : Nat) = none := by
  rw [Cell.remembered?, if_neg]
  intro entered
  have bound := coherent.entered _ entered
  omega

theorem new_iff (coherent : Coherent past key) (reading : Except FileError Bytes) :
    (((after past).cell key).answer = none ∨
        ((after past).cell key).fingerprint ≠ some (fingerprint reading)) ↔
      ∀ last, lastLoad? past key = some last → fingerprint last ≠ fingerprint reading := by
  rcases coherent.last with ⟨empty, never⟩ | ⟨answer, last, held, loaded, known⟩
  · simp [empty, never]
  · simp [held, loaded, known]

theorem reset (coherent : Coherent past key) : Coherent (.reset :: past) key := by
  have cell : (after (.reset :: past)).cell key = (after past).cell key := cell_reset _ key
  have forgotten := coherent.not_remembered_next
  refine ⟨?_, ?_, ?_, ?_, ?_, ?_⟩
  · intro generation entered
    simp only [cell] at entered
    have bound := coherent.entered generation entered
    simp only [generationAfter]
    omega
  · simp only [cell]
    exact coherent.backed
  · simp only [cell]
    exact coherent.last
  · intro _
    exact readingsOf_asks_of_lt (Nat.lt_succ_self (generationAfter past)) key
  · intro answer remembered
    simp only [cell] at remembered
    simp only [generationAfter] at remembered
    simp only [forgotten] at remembered
    cases remembered
  · exact coherent.loaded

theorem ask_of_ne (coherent : Coherent past key) {asked : Key} (different : asked ≠ key)
    (reading : Except FileError Bytes) : Coherent (.ask asked reading :: past) key := by
  have cell : (after (.ask asked reading :: past)).cell key = (after past).cell key :=
    cell_visit_of_ne _ (Ne.symm different) reading
  have asks (generation : Nat) : readingsOf (asks (.ask asked reading :: past)) key generation =
      readingsOf (asks past) key generation := readingsOf_cons_of_ne (.inl different) _
  have loads (generation : Nat) : readingsOf (loads (.ask asked reading :: past)) key generation =
      readingsOf (loads past) key generation := by
    rcases loads_ask_cases past asked reading with same | more
    · simp only [same]
    · rw [more, readingsOf_cons_of_ne (.inl different)]
  have last : lastLoad? (.ask asked reading :: past) key = lastLoad? past key := by
    rcases loads_ask_cases past asked reading with same | more
    · simp only [lastLoad?, same]
    · rw [lastLoad?, more, List.find?_cons_of_neg (by simpa using different), lastLoad?]
  have more := hashed_subset (.ask asked reading) past
  refine ⟨?_, ?_, ?_, ?_, ?_, ?_⟩
  · simp only [cell]
    exact coherent.entered
  · simp only [cell]
    exact coherent.backed.mono more
  · simp only [cell, last]
    exact coherent.last
  · simp only [cell, generationAfter, asks]
    exact coherent.unasked
  · intro answer remembered
    simp only [cell] at remembered
    simp only [generationAfter, asks]
    rcases coherent.answered answer remembered with ⟨first, found, answers⟩
    exact ⟨first, found, fun free => answers (free.mono more)⟩
  · intro generation
    simp only [loads, asks]
    exact coherent.loaded generation

theorem ask_of_remembered (coherent : Coherent past key)
    {answer : Except FileError key.kind.Value}
    (remembered : ((after past).cell key).remembered? (generationAfter past) = some answer)
    (reading : Except FileError Bytes) : Coherent (.ask key reading :: past) key := by
  have loads := loads_ask_of_remembered remembered reading
  have hashed : hashed (.ask key reading :: past) = hashed past :=
    congrArg (·.map (·.reading)) loads
  have last : lastLoad? (.ask key reading :: past) key = lastLoad? past key := by
    simp only [lastLoad?, loads]
  have cell : (after (.ask key reading :: past)).cell key = (after past).cell key := by
    simp only [after, visit_after_of_remembered remembered]
    exact cell_withCell _ key _
  rcases coherent.answered answer remembered with ⟨first, found, answers⟩
  have oldest (newer : Except FileError Bytes) :
      (newer :: readingsOf (asks past) key (generationAfter past)).getLast? = some first := by
    simp only [List.getLast?_cons, found]
    rfl
  refine ⟨?_, ?_, ?_, ?_, ?_, ?_⟩
  · simp only [cell]
    exact coherent.entered
  · simp only [cell, hashed]
    exact coherent.backed
  · simp only [cell, last]
    exact coherent.last
  · intro forgotten
    simp only [cell, generationAfter, remembered] at forgotten
    cases forgotten
  · intro held known
    simp only [cell, generationAfter, remembered] at known
    cases known
    simp only [generationAfter, asks, readingsOf_cons_self, hashed]
    exact ⟨first, oldest reading, answers⟩
  · intro generation
    simp only [loads, coherent.loaded, asks]
    by_cases now : generation = generationAfter past
    · simp only [now, readingsOf_cons_self, oldest, found]
    · rw [readingsOf_cons_of_ne (.inr (Ne.symm now))]

theorem ask_of_not_remembered (coherent : Coherent past key)
    (forgotten : ((after past).cell key).remembered? (generationAfter past) = none)
    (reading : Except FileError Bytes) : Coherent (.ask key reading :: past) key := by
  have loads := loads_ask_of_not_remembered forgotten reading
  have hashed : hashed (.ask key reading :: past) = reading :: hashed past :=
    congrArg (·.map (·.reading)) loads
  have last : lastLoad? (.ask key reading :: past) key = some reading := by
    rw [lastLoad?, loads, List.find?_cons_of_pos (by simp)]
    rfl
  have ready : Backed key (FileCache.hashed past) (marked past key) := coherent.backed
  rcases ready.takeIn reading with ⟨answer, _, held, fingerprints, backed, answers⟩
  have cell : (after (.ask key reading :: past)).cell key =
      ((marked past key).takeIn reading key.make).cell := by
    simp only [after, visit_after_of_not_remembered forgotten]
    exact cell_withCell _ key _
  have generation : ((after (.ask key reading :: past)).cell key).generation =
      some (generationAfter past : Int) := by
    simp only [cell, Cell.generation_takeIn, marked]
  rw [← cell] at held fingerprints backed
  have unasked := coherent.unasked forgotten
  refine ⟨?_, ?_, ?_, ?_, ?_, ?_⟩
  · intro other equal
    simp only [generation] at equal
    cases equal
    apply Int.le_refl
  · simp only [hashed]
    exact backed
  · exact .inr ⟨answer, reading, held, last, fingerprints⟩
  · intro again
    simp only [generationAfter, Cell.remembered?, if_pos generation, held] at again
    cases again
  · intro given remembered
    simp only [generationAfter, Cell.remembered?, if_pos generation, held] at remembered
    cases remembered
    simp only [generationAfter, asks, readingsOf_cons_self, unasked, hashed]
    exact ⟨reading, rfl, answers⟩
  · intro other
    simp only [loads, asks]
    by_cases now : other = generationAfter past
    · simp only [now, readingsOf_cons_self, coherent.loaded, unasked]
      rfl
    · rw [readingsOf_cons_of_ne (.inr (Ne.symm now)), readingsOf_cons_of_ne (.inr (Ne.symm now)),
        coherent.loaded]

end Coherent

theorem coherent (past : List Request) (key : Key) : Coherent past key := by
  induction past with
  | nil => exact coherent_nil key
  | cons request past ih =>
      cases request with
      | reset => exact ih.reset
      | ask asked reading =>
          by_cases same : asked = key
          · subst same
            cases remembered : ((after past).cell asked).remembered? (generationAfter past) with
            | some answer => exact ih.ask_of_remembered remembered reading
            | none => exact ih.ask_of_not_remembered remembered reading
          · exact ih.ask_of_ne same reading

/-! ## A request -/

theorem coherent_visit {past : List Request} {key : Key} {reading : Except FileError Bytes}
    (free : CollisionFree (hashed (.ask key reading :: past))) :
    ∃ first answer,
      (readingsOf (asks (.ask key reading :: past)) key (generationAfter past)).getLast? =
        some first ∧
      ((after past).visit key reading).1.outcome = .ofExcept answer ∧ key.Answers first answer := by
  cases remembered : ((after past).cell key).remembered? (generationAfter past) with
  | some answer =>
      rcases (coherent past key).answered answer remembered with ⟨first, found, answers⟩
      rw [visit_after_of_remembered remembered, asks, readingsOf_cons_self, List.getLast?_cons,
        found]
      exact ⟨first, answer, rfl, rfl, answers (free.mono (hashed_subset _ past))⟩
  | none =>
      have backed : Backed key (hashed past) (marked past key) := (coherent past key).backed
      rcases backed.takeIn reading with ⟨answer, outcome, _, _, _, answers⟩
      simp only [hashed, loads_ask_of_not_remembered remembered] at free
      rw [visit_after_of_not_remembered remembered, asks, readingsOf_cons_self,
        (coherent past key).unasked remembered]
      exact ⟨reading, answer, rfl, outcome, answers free⟩

/-- An answer is made of the first reading of a generation unless its fingerprint is old. -/
theorem made_iff (past : List Request) (key : Key) (reading : Except FileError Bytes) :
    (∃ previous, ((after past).visit key reading).1.event = .made previous) ↔
      readingsOf (asks past) key (generationAfter past) = [] ∧
      (∃ content, reading = .ok content) ∧
      ∀ last, lastLoad? past key = some last → fingerprint last ≠ fingerprint reading := by
  cases remembered : ((after past).cell key).remembered? (generationAfter past) with
  | some answer =>
      rcases (coherent past key).answered answer remembered with ⟨first, found, _⟩
      simp only [visit_after_of_remembered remembered]
      constructor
      · rintro ⟨previous, impossible⟩
        cases impossible
      · rintro ⟨unasked, _⟩
        simp only [unasked] at found
        cases found
  | none =>
      have unasked := (coherent past key).unasked remembered
      simp only [visit_after_of_not_remembered remembered]
      simp only [Cell.made_takeIn_iff, unasked, true_and]
      apply and_congr_right
      intro _
      exact (coherent past key).new_iff reading

/--
A request for a key gives the answer to the first reading that was asked of the key
in its generation. For every key and generation this first reading, and no other, is
executed. A new answer is made only of a reading with another fingerprint than the
last one executed for the key, and requests for other keys make no difference.
-/
theorem visit_eq_answer_to_first (past : List Request) (key : Key)
    (reading : Except FileError Bytes)
    (free : CollisionFree (hashed (.ask key reading :: past))) :
    (∃ first answer,
      (readingsOf (asks (.ask key reading :: past)) key (generationAfter past)).getLast? =
        some first ∧
      ((after past).visit key reading).1.outcome = .ofExcept answer ∧
      key.Answers first answer) ∧
    (∀ other generation, readingsOf (loads (.ask key reading :: past)) other generation =
      (readingsOf (asks (.ask key reading :: past)) other generation).getLast?.toList) ∧
    ((∃ previous, ((after past).visit key reading).1.event = .made previous) ↔
      readingsOf (asks past) key (generationAfter past) = [] ∧
      (∃ content, reading = .ok content) ∧
      ∀ last, lastLoad? past key = some last → fingerprint last ≠ fingerprint reading) ∧
    ((after past).visit key reading).1.outcome =
      ((after (past.filter (·.concerns key))).visit key reading).1.outcome := by
  refine ⟨coherent_visit free, ?_, made_iff past key reading, ?_⟩
  · intro other generation
    exact (coherent (.ask key reading :: past) other).loaded generation
  · rcases cell_after_filter past key with ⟨cells, generations⟩
    exact (visit_congr cells.symm (by simp [generations]) reading).1

/-- A source is read, the file changes, and the next generation reads and makes it anew. -/
theorem visit_eq_answer_to_first_of_changed_file :
    let key : Key := ⟨.project "a.typ", .source⟩
    let past : List Request := [.reset, .ask key (.error (.ofMessage .notFound "file not found")),
      .ask key (.ok [97])]
    CollisionFree (hashed (.ask key (.ok [98]) :: past)) ∧
      (∃ first answer,
        (readingsOf (asks (.ask key (.ok [98]) :: past)) key (generationAfter past)).getLast? =
          some first ∧
        ((after past).visit key (.ok [98])).1.outcome = .ofExcept answer ∧
        key.Answers first answer) ∧
      ∃ previous, ((after past).visit key (.ok [98])).1.event = .made previous := by
  have free : CollisionFree (hashed
      [.ask ⟨.project "a.typ", .source⟩ (.ok [98]), .reset,
        .ask ⟨.project "a.typ", .source⟩ (.error (.ofMessage .notFound "file not found")),
        .ask ⟨.project "a.typ", .source⟩ (.ok [97])]) := by
    decide +kernel
  have visit := visit_eq_answer_to_first _ _ _ free
  refine ⟨free, visit.1, visit.2.2.1.mpr ⟨by decide +kernel, ⟨_, rfl⟩, ?_⟩⟩
  decide +kernel

end Typeset.FileCache
