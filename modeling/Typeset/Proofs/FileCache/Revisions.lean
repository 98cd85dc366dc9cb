import Typeset.Proofs.FileCache.Objects
import Typeset.Proofs.Fingerprint
import Typeset.Proofs.Source.WellFormed

/-!
# Revisions of cached sources

A slot gives the same source again and again, edited to the text that was read last, until a
reading fails or holds no text. The next text then makes a new source. So the readings since the
newest failure tell everything of a source: its text is the newest one, and its revision is the
number of times that the text was not the one before. A source that was given is never changed but
by a call that gives it.

Histories list calls, readings and texts with the newest first.
-/

namespace Typeset.FileSlot

/-- The readings that were executed: those of calls for another generation than the one before. -/
def readings : List Call → List (Except FileError Bytes)
  | [] => []
  | call :: past =>
      if past.head?.map (·.generation) = some call.generation then readings past
      else call.reading :: readings past

/-- The texts that were read since the newest reading without one. -/
def streak : List (Except FileError Bytes) → List String
  | [] => []
  | reading :: past =>
      match text? reading with
      | some text => text :: streak past
      | none => []

/-- How often a text is not the one before. -/
def changes : List String → Nat
  | text :: before :: past => changes (before :: past) + if text = before then 0 else 1
  | _ => 0

/-- How many readings failed or held no text. -/
def failures (readings : List (Except FileError Bytes)) : Nat :=
  readings.countP (text? · = none)

/-- The place of the source that the newest call gave. -/
def given? (id : FileId) : List Call → Option Nat
  | [] => none
  | call :: past =>
      match ((after id past).visit id call).outcome with
      | .value place => some place
      | _ => none

/-- A source of a text that came about by a number of edits. -/
def edited (id : FileId) (text : String) (revision : Nat) : Source :=
  { Source.ofText id text with revision := revision }

/-- What a reading does to the sources in a store of which the cell remembers a place or none. -/
inductive Effect (id : FileId) (store : List Source) (remembered : Option Nat) :
    Option String → Except FileError Nat → List Source → Prop
  | refuse (error : FileError) : Effect id store remembered none (.error error) store
  | create (text : String) (new : remembered = none) :
      Effect id store remembered (some text) (.ok store.length) (store ++ [.ofText id text])
  | edit (text : String) {place : Nat} {source : Source} (old : remembered = some place)
      (there : store[place]? = some source) :
      Effect id store remembered (some text) (.ok place) (store.set place (source.replace text).1)

/-- What an answer is after some texts: the newest source of a store has the newest text. -/
inductive Holds (id : FileId) (store : List Source) : List String → Except FileError Nat → Prop
  | failure (error : FileError) : Holds id store [] (.error error)
  | source {text : String} {rest : List String} {place : Nat} (last : place + 1 = store.length)
      (there : store[place]? = some (edited id text (changes (text :: rest)))) :
      Holds id store (text :: rest) (.ok place)

/-- What the source cell and the store hold after some calls, as the readings tell it. -/
structure Tracks (id : FileId) (past : List Call) : Prop where
  generation : (after id past).cell.generation = past.head?.map (·.generation)
  fingerprint : (after id past).cell.fingerprint = (readings past).head?.map Typeset.fingerprint
  filled : (after id past).cell.answer = none → past = []
  holds : ∀ answer, (after id past).cell.answer = some answer →
    Holds id (after id past).store (streak (readings past)) answer

/-- What later calls make of the sources that were given by earlier ones. -/
structure Since (id : FileId) (older newer : List Call) : Prop where
  grows : (after id older).store.length ≤ (after id newer).store.length
  fails : failures (readings older) ≤ failures (readings newer)
  keeps : failures (readings newer) = failures (readings older) →
    ∀ place, (after id older).cell.value? = some place → (after id newer).cell.value? = some place
  renews : failures (readings older) < failures (readings newer) →
    ∀ place, (after id newer).cell.value? = some place → (after id older).store.length ≤ place

variable {id : FileId} {past : List Call} {call : Call}

/-! ## Texts of readings -/

theorem text?_mapError (reading : Except FileError Bytes) (function : FileError → FileError) :
    text? (reading.mapError function) = text? reading := by
  cases reading <;> rfl

theorem text?_eq_of_fingerprint {readings : List (Except FileError Bytes)}
    (free : CollisionFree readings) {left right : Except FileError Bytes}
    (leftMem : left ∈ readings) (rightMem : right ∈ readings)
    (same : fingerprint left = fingerprint right) :
    text? left = text? right := by
  have alike := congrArg text? (free.mapError_bare_eq leftMem rightMem same)
  rw [text?_mapError, text?_mapError] at alike
  exact alike

theorem replace_edited (id : FileId) (text : String) (revision : Nat) (new : String) :
    ((edited id text revision).replace new).1 =
      edited id new (revision + if new = text then 0 else 1) := by
  by_cases same : new = text
  · simp [Source.replace, edited, Source.ofText, same]
  · have wellFormed : (edited id text revision).WellFormed := rfl
    have pristine := wellFormed.replace new
    rw [Source.WellFormed, Source.text_replace, Source.id_replace] at pristine
    have different : text.toList ≠ new.toList := fun alike => same (String.toList_inj.mp alike).symm
    have revised : ((edited id text revision).replace new).1.revision = revision + 1 := by
      simp [Source.replace, edited, Source.ofText, different, Source.revise]
    calc ((edited id text revision).replace new).1
        = { ((edited id text revision).replace new).1.pristine with
            revision := ((edited id text revision).replace new).1.revision } := rfl
      _ = edited id new (revision + if new = text then 0 else 1) := by
        rw [pristine, revised, if_neg same]
        rfl

/-- A source that gets the text it has stays as it is. -/
theorem set_replace_same {store : List Source} {place : Nat} {text : String} {revision : Nat}
    (there : store[place]? = some (edited id text revision)) :
    store.set place ((edited id text revision).replace text).1 = store := by
  rcases List.getElem?_eq_some_iff.mp there with ⟨inside, stands⟩
  rw [replace_edited, if_pos rfl, Nat.add_zero, ← stands, List.set_getElem_self]

theorem readings_again (again : past.head?.map (·.generation) = some call.generation) :
    readings (call :: past) = readings past :=
  if_pos again

theorem readings_anew (anew : past.head?.map (·.generation) ≠ some call.generation) :
    readings (call :: past) = call.reading :: readings past :=
  if_neg anew

theorem readings_subset (call : Call) (past : List Call) :
    readings past ⊆ readings (call :: past) := by
  rw [readings]
  split
  · exact List.Subset.refl _
  · exact List.subset_cons_self _ _

theorem readings_subset_append (recent older : List Call) :
    readings older ⊆ readings (recent ++ older) := by
  induction recent with
  | nil => exact List.Subset.refl _
  | cons call recent ih => exact List.Subset.trans ih (readings_subset call _)

theorem streak_of_text {reading : Except FileError Bytes} {text : String}
    (holds : text? reading = some text) (past : List (Except FileError Bytes)) :
    streak (reading :: past) = text :: streak past := by
  simp only [streak, holds]

theorem streak_of_no_text {reading : Except FileError Bytes} (nothing : text? reading = none)
    (past : List (Except FileError Bytes)) : streak (reading :: past) = [] := by
  simp only [streak, nothing]

/-! ## What a call does -/

namespace Tracks

/-- The source that a cell remembers is the newest of the store. -/
theorem newest (tracks : Tracks id past) {place : Nat}
    (remembered : (after id past).cell.value? = some place) :
    Holds id (after id past).store (streak (readings past)) (.ok place) :=
  tracks.holds _ (Cell.value?_eq_some_iff.mp remembered)

theorem streak_eq_nil (tracks : Tracks id past) (nothing : (after id past).cell.value? = none) :
    streak (readings past) = [] := by
  cases filled : (after id past).cell.answer with
  | none =>
      rw [tracks.filled filled]
      rfl
  | some answer =>
      have holds := tracks.holds answer filled
      generalize streak (readings past) = texts at holds
      cases holds with
      | failure error => rfl
      | source last there => cases nothing.symm.trans (Cell.value?_eq_some_iff.mpr filled)

theorem visit_again (tracks : Tracks id past)
    (again : past.head?.map (·.generation) = some call.generation) :
    ∃ answer, (after id past).cell.answer = some answer ∧
      (after id past).visit id call = ⟨.ofExcept answer, [], after id past⟩ := by
  cases filled : (after id past).cell.answer with
  | none =>
      rw [tracks.filled filled] at again
      cases again
  | some answer =>
      refine ⟨answer, rfl, visit_of_remembered ?_⟩
      exact Cell.remembered?_eq_some_iff.mpr ⟨tracks.generation.trans again, filled⟩

theorem effect_of_changed (tracks : Tracks id past) (reading : Except FileError Bytes) :
    ∃ answer store,
      answerAt id (after id past).store (after id past).cell.value? reading =
        (.ofExcept answer, store) ∧
      Effect id (after id past).store (after id past).cell.value? (text? reading) answer store := by
  cases holds : text? reading with
  | none =>
      rcases answerAt_of_no_text holds id (after id past).store with ⟨error, refused, _⟩
      exact ⟨.error error, _, refused _, .refuse error⟩
  | some text =>
      cases remembered : (after id past).cell.value? with
      | none => exact ⟨.ok _, _, (answerAt_of_text holds id _).1, .create text rfl⟩
      | some place =>
          have newest := tracks.newest remembered
          generalize streak (readings past) = texts at newest
          cases newest with
          | source last there =>
              exact ⟨.ok place, _, (answerAt_of_edit holds id there).1, .edit text rfl there⟩

/-- A reading that holds the same text as the one before leaves everything as it was. -/
theorem effect_of_unchanged (tracks : Tracks id past) {answer : Except FileError Nat}
    (filled : (after id past).cell.answer = some answer) {reading last : Except FileError Bytes}
    {older : List (Except FileError Bytes)} (loaded : readings past = last :: older)
    (same : text? last = text? reading) :
    Effect id (after id past).store (after id past).cell.value? (text? reading) answer
      (after id past).store := by
  have before := tracks.holds answer filled
  rw [loaded] at before
  cases holds : text? reading with
  | none =>
      rw [streak_of_no_text (same.trans holds)] at before
      cases before with
      | failure error => exact .refuse error
  | some text =>
      rw [streak_of_text (same.trans holds)] at before
      cases before with
      | source last there =>
          have effect : Effect id _ _ _ _ _ :=
            .edit text (Cell.value?_eq_some_iff.mpr filled) there
          rw [set_replace_same there] at effect
          exact effect

theorem visit_anew (tracks : Tracks id past)
    (anew : past.head?.map (·.generation) ≠ some call.generation)
    (free : CollisionFree (readings (call :: past))) :
    ∃ answer store,
      (after id past).visit id call = ⟨.ofExcept answer, [.ofExcept call.reading],
        ⟨⟨some answer, some (Typeset.fingerprint call.reading), some call.generation⟩, store⟩⟩ ∧
      Effect id (after id past).store (after id past).cell.value? (text? call.reading) answer
        store := by
  have forgotten : (after id past).cell.remembered? call.generation = none := by
    rw [Cell.remembered?, if_neg (tracks.generation ▸ anew)]
  by_cases changed : (after id past).cell.answer = none ∨
      (after id past).cell.fingerprint ≠ some (Typeset.fingerprint call.reading)
  · rcases tracks.effect_of_changed call.reading with ⟨answer, store, made, effect⟩
    exact ⟨answer, store, visit_of_changed forgotten changed made, effect⟩
  · rw [not_or, Decidable.not_not] at changed
    rcases changed with ⟨filled, same⟩
    rcases Option.ne_none_iff_exists'.mp filled with ⟨answer, filled⟩
    rcases Option.map_eq_some_iff.mp (tracks.fingerprint.symm.trans same) with
      ⟨last, head, alike⟩
    rcases List.head?_eq_some_iff.mp head with ⟨older, loaded⟩
    rw [readings_anew anew, loaded] at free
    have texts : text? last = text? call.reading :=
      text?_eq_of_fingerprint free (by simp) (by simp) alike
    refine ⟨answer, (after id past).store, ?_, tracks.effect_of_unchanged filled loaded texts⟩
    rw [visit_of_unchanged forgotten filled same]
    simp only [filled, same]

theorem holds_cons (tracks : Tracks id past) {reading : Except FileError Bytes}
    {answer : Except FileError Nat} {store : List Source}
    (effect : Effect id (after id past).store (after id past).cell.value? (text? reading) answer
      store) :
    Holds id store (streak (reading :: readings past)) answer := by
  generalize holds : text? reading = text at effect
  cases effect with
  | refuse error =>
      rw [streak_of_no_text holds]
      exact .failure error
  | create text new =>
      rw [streak_of_text holds, tracks.streak_eq_nil new]
      refine .source ?_ List.getElem?_concat_length
      rw [List.length_append, List.length_singleton]
  | @edit text place source old there =>
      have before := tracks.newest old
      rw [streak_of_text holds]
      generalize streak (readings past) = texts at before
      cases before with
      | source last held =>
          cases there.symm.trans held
          have inside : place < (after id past).store.length := by omega
          refine .source ?_ ?_
          · rw [List.length_set, last]
          · rw [List.getElem?_set_self inside, replace_edited, changes]

/-- A reading of the text that was read last changes no source. -/
theorem store_of_same_text (tracks : Tracks id past) {text : String}
    {answer : Except FileError Nat} {store : List Source}
    (effect : Effect id (after id past).store (after id past).cell.value? (some text) answer store)
    (same : (streak (readings past)).head? = some text) : store = (after id past).store := by
  cases effect with
  | create _ new =>
      rw [tracks.streak_eq_nil new] at same
      cases same
  | edit _ old there =>
      have newest := tracks.newest old
      generalize streak (readings past) = texts at newest same
      cases newest with
      | source last held =>
          cases same
          cases there.symm.trans held
          exact set_replace_same held

end Tracks

/-- Every source but the one that is given stays as it is. -/
theorem Effect.getElem?_of_ne {store left : List Source} {remembered : Option Nat}
    {text : Option String} {answer : Except FileError Nat}
    (effect : Effect id store remembered text answer left) {other : Nat}
    (different : answer ≠ .ok other) : left[other]? = store[other]? := by
  cases effect with
  | refuse error => rfl
  | create text new =>
      have elsewhere : store.length ≠ other := fun same => different (congrArg Except.ok same)
      rcases Nat.lt_or_ge other store.length with inside | outside
      · exact List.getElem?_append_left inside
      · rw [List.getElem?_append_right outside, List.getElem?_eq_none outside]
        exact List.getElem?_eq_none (Nat.sub_pos_of_lt (Nat.lt_of_le_of_ne outside elsewhere))
  | edit text old there =>
      exact List.getElem?_set_ne fun same => different (congrArg Except.ok same)

theorem tracks_nil (id : FileId) : Tracks id [] :=
  ⟨rfl, rfl, fun _ => rfl, fun _ impossible => nomatch impossible⟩

theorem tracks (id : FileId) {past : List Call} (free : CollisionFree (readings past)) :
    Tracks id past := by
  induction past with
  | nil => exact tracks_nil id
  | cons call past ih =>
      have before := ih (free.mono (readings_subset call past))
      by_cases again : past.head?.map (·.generation) = some call.generation
      · rcases before.visit_again again with ⟨answer, filled, does⟩
        have same : after id (call :: past) = after id past := congrArg Visit.held does
        refine ⟨?_, ?_, ?_, ?_⟩
        · rw [same, before.generation, again]
          rfl
        · rw [same, before.fingerprint, readings_again again]
        · rw [same, filled]
          rintro ⟨⟩
        · rw [same, readings_again again]
          exact before.holds
      · rcases before.visit_anew again free with ⟨answer, store, does, effect⟩
        have left : after id (call :: past) =
            ⟨⟨some answer, some (fingerprint call.reading), some call.generation⟩, store⟩ :=
          congrArg Visit.held does
        refine ⟨?_, ?_, ?_, ?_⟩
        · rw [left]
          rfl
        · rw [left, readings_anew again]
          rfl
        · rw [left]
          rintro ⟨⟩
        · rw [left, readings_anew again]
          rintro _ ⟨⟩
          exact before.holds_cons effect

/-! ## Runs -/

theorem failures_of_text {reading : Except FileError Bytes} {text : String}
    (holds : text? reading = some text) (past : List (Except FileError Bytes)) :
    failures (reading :: past) = failures past := by
  simp [failures, holds]

theorem failures_of_no_text {reading : Except FileError Bytes} (nothing : text? reading = none)
    (past : List (Except FileError Bytes)) : failures (reading :: past) = failures past + 1 := by
  simp [failures, nothing]

namespace Since

variable {older newer : List Call}

theorem refl (calls : List Call) : Since id calls calls :=
  ⟨Nat.le_refl _, Nat.le_refl _, fun _ _ given => given, fun less => absurd less (Nat.lt_irrefl _)⟩

theorem cons_again (since : Since id older newer)
    (again : newer.head?.map (·.generation) = some call.generation)
    (same : after id (call :: newer) = after id newer) : Since id older (call :: newer) := by
  constructor
  · rw [same]
    exact since.grows
  · rw [readings_again again]
    exact since.fails
  · rw [same, readings_again again]
    exact since.keeps
  · rw [same, readings_again again]
    exact since.renews

theorem cons_anew (since : Since id older newer)
    (anew : newer.head?.map (·.generation) ≠ some call.generation)
    {answer : Except FileError Nat} {store : List Source}
    (left : (after id (call :: newer)).store = store)
    (filled : (after id (call :: newer)).cell.answer = some answer)
    (effect : Effect id (after id newer).store (after id newer).cell.value? (text? call.reading)
      answer store) : Since id older (call :: newer) := by
  have fails := since.fails
  have given (place : Nat) : (after id (call :: newer)).cell.value? = some place ↔
      answer = .ok place := by
    rw [Cell.value?_eq_some_iff, filled, Option.some.injEq]
  generalize holds : text? call.reading = text at effect
  cases effect with
  | refuse error =>
      have counted : failures (readings (call :: newer)) = failures (readings newer) + 1 := by
        rw [readings_anew anew, failures_of_no_text holds]
      constructor
      · rw [left]
        exact since.grows
      · omega
      · intro same
        omega
      · intro _ place gives
        cases (given place).mp gives
  | create text new =>
      have counted : failures (readings (call :: newer)) = failures (readings newer) := by
        rw [readings_anew anew, failures_of_text holds]
      constructor
      · rw [left, List.length_append]
        exact Nat.le_add_right_of_le since.grows
      · rw [counted]
        exact since.fails
      · intro same place gave
        cases new.symm.trans (since.keeps (counted.symm.trans same) place gave)
      · intro _ place gives
        cases (given place).mp gives
        exact since.grows
  | @edit text kept source old there =>
      have counted : failures (readings (call :: newer)) = failures (readings newer) := by
        rw [readings_anew anew, failures_of_text holds]
      constructor
      · rw [left, List.length_set]
        exact since.grows
      · rw [counted]
        exact since.fails
      · intro same place gave
        rw [given]
        cases old.symm.trans (since.keeps (counted.symm.trans same) place gave)
        rfl
      · intro less place gives
        cases (given place).mp gives
        exact since.renews (counted ▸ less) kept old

theorem cons (since : Since id older newer) (free : CollisionFree (readings (call :: newer))) :
    Since id older (call :: newer) := by
  have before := tracks id (free.mono (readings_subset call newer))
  by_cases again : newer.head?.map (·.generation) = some call.generation
  · rcases before.visit_again again with ⟨answer, filled, does⟩
    exact since.cons_again again (congrArg Visit.held does)
  · rcases before.visit_anew again free with ⟨answer, store, does, effect⟩
    have left := congrArg Visit.held does
    exact since.cons_anew again (congrArg Held.store left) (congrArg (·.cell.answer) left) effect

end Since

theorem since (id : FileId) (recent older : List Call)
    (free : CollisionFree (readings (recent ++ older))) : Since id older (recent ++ older) := by
  induction recent with
  | nil => exact .refl older
  | cons call recent ih => exact (ih (free.mono (readings_subset call _))).cons free

theorem given?_eq (id : FileId) {calls : List Call} (free : CollisionFree (readings calls)) :
    given? id calls = (after id calls).cell.value? := by
  cases calls with
  | nil => rfl
  | cons call past =>
      have before := tracks id (free.mono (readings_subset call past))
      rw [given?, after]
      by_cases again : past.head?.map (·.generation) = some call.generation
      · rcases before.visit_again again with ⟨answer, filled, does⟩
        rw [does]
        simp only [Cell.value?, filled]
        cases answer <;> rfl
      · rcases before.visit_anew again free with ⟨answer, store, does, effect⟩
        rw [does]
        cases answer <;> rfl

/-- Two calls give the same source exactly if no reading failed between them. -/
theorem place_eq_iff {recent older : List Call} (free : CollisionFree (readings (recent ++ older)))
    {place earlier : Nat} (gives : given? id (recent ++ older) = some place)
    (gave : given? id older = some earlier) :
    place = earlier ↔ failures (readings (recent ++ older)) = failures (readings older) := by
  have before := free.mono (readings_subset_append recent older)
  rw [given?_eq id free] at gives
  rw [given?_eq id before] at gave
  have since := since id recent older free
  have newest := (tracks id before).newest gave
  generalize streak (readings older) = texts at newest
  cases newest with
  | source last there =>
      constructor
      · rintro rfl
        rcases Nat.lt_or_eq_of_le since.fails with less | same
        · have beyond := since.renews less place gives
          omega
        · exact same.symm
      · intro same
        exact Option.some.inj (gives.symm.trans (since.keeps same earlier gave))

/-! ## A call -/

/-- A call gives what the texts tell, and it reads nothing or does what its reading means. -/
theorem visit_cases (id : FileId) (free : CollisionFree (readings (call :: past))) :
    ∃ answer store, ((after id past).visit id call).outcome = .ofExcept answer ∧
      ((after id past).visit id call).held.store = store ∧
      Holds id store (streak (readings (call :: past))) answer ∧
      ((past.head?.map (·.generation) = some call.generation ∧
          ((after id past).visit id call).readings = [] ∧ store = (after id past).store) ∨
        (past.head?.map (·.generation) ≠ some call.generation ∧
          ((after id past).visit id call).readings = [.ofExcept call.reading] ∧
          Effect id (after id past).store (after id past).cell.value? (text? call.reading) answer
            store)) := by
  have before := tracks id (free.mono (readings_subset call past))
  have holds := (tracks id free).holds
  by_cases again : past.head?.map (·.generation) = some call.generation
  · rcases before.visit_again again with ⟨answer, filled, does⟩
    rw [after, does] at holds
    rw [does]
    exact ⟨answer, _, rfl, rfl, holds answer filled, .inl ⟨again, rfl, rfl⟩⟩
  · rcases before.visit_anew again free with ⟨answer, store, does, effect⟩
    rw [after, does] at holds
    rw [does]
    exact ⟨answer, store, rfl, rfl, holds answer rfl, .inr ⟨again, rfl, effect⟩⟩

theorem getElem?_store_visit (free : CollisionFree (readings (call :: past))) {other : Nat}
    (different : ((after id past).visit id call).outcome ≠ .value other) :
    ((after id past).visit id call).held.store[other]? = (after id past).store[other]? := by
  rcases visit_cases id free with ⟨answer, store, gives, left, _, does⟩
  rw [left]
  rcases does with ⟨_, _, same⟩ | ⟨_, _, effect⟩
  · rw [same]
  · apply effect.getElem?_of_ne
    rintro rfl
    exact different gives

theorem visit_of_no_text (id : FileId) (free : CollisionFree (readings (call :: past)))
    (nothing : streak (readings (call :: past)) = []) :
    ((after id past).visit id call).held.store = (after id past).store ∧
      ∃ error, ((after id past).visit id call).outcome = .failed error := by
  rcases visit_cases id free with ⟨answer, store, gives, left, holds, does⟩
  rw [nothing] at holds
  cases holds with
  | failure error =>
      refine ⟨?_, error, gives⟩
      rw [left]
      rcases does with ⟨_, _, same⟩ | ⟨_, _, effect⟩
      · exact same
      · generalize text? call.reading = text at effect
        cases effect
        rfl

theorem visit_of_text (id : FileId) (free : CollisionFree (readings (call :: past)))
    {text : String} {rest : List String}
    (texts : streak (readings (call :: past)) = text :: rest) :
    ∃ place, ((after id past).visit id call).outcome = .value place ∧
      ((after id past).visit id call).held.store[place]? =
        some (edited id text (changes (text :: rest))) ∧
      (streak (readings past) = [] → place = (after id past).store.length ∧ rest = []) ∧
      ((streak (readings past)).head? = some text →
        ((after id past).visit id call).held.store = (after id past).store) := by
  have before := tracks id (free.mono (readings_subset call past))
  rcases visit_cases id free with ⟨answer, store, gives, left, holds, does⟩
  rw [texts] at holds
  rw [left]
  cases holds with
  | @source _ _ place last there =>
      refine ⟨place, gives, there, ?_⟩
      rcases does with ⟨again, _, same⟩ | ⟨anew, _, effect⟩
      · rw [← readings_again again, texts]
        constructor
        · rintro ⟨⟩
        · exact fun _ => same
      · rw [readings_anew anew] at texts
        generalize read : text? call.reading = newest at effect
        cases newest with
        | none => cases (streak_of_no_text read _).symm.trans texts
        | some newest =>
            cases (streak_of_text read _).symm.trans texts
            refine ⟨fun ended => ⟨?_, ended⟩, before.store_of_same_text effect⟩
            cases effect with
            | create _ new => rfl
            | edit _ old there =>
                have impossible := before.newest old
                rw [ended] at impossible
                cases impossible

/--
A call executes its reading if it is for another generation than the call before. If the newest
reading holds no text, the call fails and changes no source. Otherwise it gives the source of the
newest text: the line starts are those of the text, and the revision is the number of changes among
the texts since the newest reading without one. The first of these texts makes a new source of
revision zero, and a text that was also the one before changes nothing. Two calls give the same
source exactly if no reading without a text came between them, and no call changes another source
than the one that it gives.
-/
theorem revision_counts_changes (id : FileId) (past : List Call) (call : Call)
    (free : CollisionFree (readings (call :: past))) :
    let held := after id past
    let visited := held.visit id call
    let byValue := ((Cell.after (past.map (·.byValue id))).visit (call.byValue id)).1
    visited.readings =
      (if past.head?.map (·.generation) = some call.generation then []
        else [.ofExcept call.reading]) ∧
    byValue.readings = visited.readings ∧
    (∀ other, visited.outcome ≠ .value other →
      visited.held.store[other]? = held.store[other]?) ∧
    (streak (readings (call :: past)) = [] →
      visited.held.store = held.store ∧
      ∃ error, visited.outcome = .failed error ∧ byValue.outcome = .failed error) ∧
    ∀ text rest, streak (readings (call :: past)) = text :: rest →
      ∃ place source, visited.outcome = .value place ∧ byValue.outcome = .value source ∧
        visited.held.store[place]? = some source ∧
        source = { Source.ofText id text with revision := changes (text :: rest) } ∧
        (streak (readings past) = [] → place = held.store.length ∧ source.revision = 0) ∧
        ((streak (readings past)).head? = some text → visited.held.store = held.store) ∧
        ∀ recent older earlier, past = recent ++ older → given? id older = some earlier →
          (place = earlier ↔ failures (readings (call :: past)) = failures (readings older)) := by
  intro held visited byValue
  have mirrors := (mirrors_after id past).visit id call
  refine ⟨?_, mirrors.readings, fun other => getElem?_store_visit free, ?_, ?_⟩
  · rcases visit_cases id free with ⟨_, _, _, _, _, ⟨again, loads, _⟩ | ⟨anew, loads, _⟩⟩
    · rw [if_pos again]
      exact loads
    · rw [if_neg anew]
      exact loads
  · intro nothing
    rcases visit_of_no_text id free nothing with ⟨store, error, fails⟩
    exact ⟨store, error, fails, mirrors.failed fails⟩
  · intro text rest texts
    rcases visit_of_text id free texts with ⟨place, gives, there, new, same⟩
    rcases mirrors.value gives with ⟨source, byValue, stands⟩
    cases there.symm.trans stands
    refine ⟨place, _, gives, byValue, stands, rfl, ?_, same, ?_⟩
    · intro ended
      rcases new ended with ⟨last, rfl⟩
      exact ⟨last, rfl⟩
    · rintro recent older earlier rfl gave
      have newest : given? id (call :: recent ++ older) = some place := by
        rw [List.cons_append, given?, gives]
      exact place_eq_iff free newest gave

/-- A file is no text for a while, gets a byte-order mark, and changes. -/
theorem revision_counts_changes_of_marked_text :
    let id := FileId.project "a.typ"
    let first : List Call := [⟨1, .ok [97]⟩]
    let past := ⟨4, .ok [239, 187, 191, 97]⟩ :: ⟨3, .ok [97]⟩ :: ⟨2, .ok [255]⟩ :: first
    let call : Call := ⟨5, .ok [98]⟩
    CollisionFree (readings (call :: past)) ∧ given? id first = some 0 ∧
      ∃ place source, ((after id past).visit id call).outcome = .value place ∧ place ≠ 0 ∧
        ((after id past).visit id call).held.store[place]? = some source ∧
        source.text = "b" ∧ source.revision = 1 := by
  intro id first past call
  have free : CollisionFree (readings (call :: past)) := by decide +kernel
  have gave : given? id first = some 0 := by decide +kernel
  have texts : streak (readings (call :: past)) = ["b", "a", "a"] := by decide +kernel
  rcases revision_counts_changes id past call free with ⟨_, _, _, _, counted⟩
  rcases counted "b" ["a", "a"] texts with ⟨place, source, gives, _, there, rfl, _, _, places⟩
  refine ⟨free, gave, place, _, gives, ?_, there, rfl, by decide⟩
  intro same
  have failed := (places (past.take 3) first 0 rfl gave).mp same
  revert failed
  decide +kernel

end Typeset.FileSlot
