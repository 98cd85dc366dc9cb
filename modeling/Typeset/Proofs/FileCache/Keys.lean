import Typeset.FileCache
import Typeset.Proofs.Cell.Access
import Typeset.Proofs.Fingerprint
import Typeset.Proofs.Source.WellFormed

/-!
# Keys of the file cache

The cache remembers two things of a file, its source and its bytes, each in a cell
of its own. A key names one of these cells. What is answered for a key is compared
with what a single reading gives without any cache, as far as readers can tell: the
revision of a source counts edits and is left out, and of an error only its kind
and its text count.

An answer in a cell is backed by some readings if it answers one of them, whose
fingerprint the cell holds. Taking in a reading keeps this, and when the hash has
no collision among these readings, the outcome answers the reading taken in.
-/

namespace Typeset

/-- What can be told of an outcome, given what can be told of a value. -/
def Outcome.seen {α : Type} (shown : α → α) : Outcome α → Outcome α
  | .value result => .value (shown result)
  | .failed error => .failed error.bare
  | .broken fault => .broken fault

theorem Outcome.seen_eq_broken_iff {α : Type} {shown : α → α} {outcome : Outcome α}
    {fault : Fault} : outcome.seen shown = .broken fault ↔ outcome = .broken fault := by
  cases outcome <;> simp [Outcome.seen]

/-- A function of outcomes that goes by what can be told of values and of errors. -/
theorem Outcome.congr_of_seen {α β : Type} {shown : α → α} {next : Outcome α → β}
    (values : ∀ left right, shown left = shown right → next (.value left) = next (.value right))
    (errors : ∀ left right, left.bare = right.bare → next (.failed left) = next (.failed right))
    {left right : Outcome α} (same : left.seen shown = right.seen shown) :
    next left = next right := by
  cases left with
  | value result =>
      cases right with
      | value result' => exact values result result' (Outcome.value.inj same)
      | failed error => cases same
      | broken fault => cases same
  | failed error =>
      cases right with
      | value result => cases same
      | failed error' => exact errors error error' (Outcome.failed.inj same)
      | broken fault => cases same
  | broken fault =>
      cases right with
      | value result => cases same
      | failed error => cases same
      | broken fault' =>
          cases same
          rfl

namespace FileCache

inductive Kind where
  | source
  | bytes
  deriving DecidableEq

namespace Kind

abbrev Value : Kind → Type
  | source => Source
  | bytes => Bytes

/-- What can be told of a value. -/
def shown : (kind : Kind) → kind.Value → kind.Value
  | source, text => text.pristine
  | bytes, content => content

end Kind

/-- One of the things that are remembered of one file. -/
structure Key where
  id : FileId
  kind : Kind
  deriving DecidableEq

namespace Key

def make : (key : Key) → Bytes → Option key.kind.Value → Outcome key.kind.Value
  | ⟨id, .source⟩ => FileSlot.parse id
  | ⟨_, .bytes⟩ => FileSlot.keep

/-- The answer of a key to a reading, without any cache. -/
def answer : (key : Key) → Except FileError Bytes → Except FileError key.kind.Value
  | ⟨id, .source⟩, reading => do
      let text ← FileSlot.readText (← reading) (some id)
      return .ofText id text
  | ⟨_, .bytes⟩, reading => reading

/-- The answer of a key to a reading that may have broken off. -/
def answerOutcome (key : Key) : Outcome Bytes → Outcome key.kind.Value
  | .value content => .ofExcept (key.answer (.ok content))
  | .failed error => .ofExcept (key.answer (.error error))
  | .broken fault => .broken fault

@[simp]
theorem answerOutcome_ofExcept (key : Key) (reading : Except FileError Bytes) :
    key.answerOutcome (.ofExcept reading) = .ofExcept (key.answer reading) := by
  cases reading <;> rfl

/-- An answer is the one to a reading, as far as can be told. -/
def Answers (key : Key) (reading : Except FileError Bytes)
    (answer : Except FileError key.kind.Value) : Prop :=
  (Outcome.ofExcept answer).seen key.kind.shown =
    (Outcome.ofExcept (key.answer reading)).seen key.kind.shown

end Key

/-! ## Cells of a cache -/

def cell (cache : FileCache) : (key : Key) → Cell key.kind.Value
  | ⟨id, .source⟩ => (cache.slot id).source
  | ⟨id, .bytes⟩ => (cache.slot id).bytes

def withCell (cache : FileCache) : (key : Key) → Cell key.kind.Value → FileCache
  | ⟨id, .source⟩, cell => cache.put id { cache.slot id with source := cell }
  | ⟨id, .bytes⟩, cell => cache.put id { cache.slot id with bytes := cell }

def ask {σ : Type} (cache : FileCache) :
    (key : Key) → StateM σ (Outcome Bytes) → StateM σ (Access key.kind.Value)
  | ⟨id, .source⟩, read => cache.source id read
  | ⟨id, .bytes⟩, read => cache.file id read

theorem run_ask {σ : Type} (cache : FileCache) (key : Key) (read : StateM σ (Outcome Bytes))
    (state : σ) :
    (cache.ask key read).run state =
      let after := ((cache.cell key).access cache.generation read key.make).run state
      (⟨after.1.outcome, cache.withCell key after.1.cell, after.1.event⟩, after.2) := by
  rcases key with ⟨id, kind⟩
  cases kind <;> rfl

theorem find?_putIn (id other : FileId) (slot : FileSlot) (entries : List (FileId × FileSlot)) :
    (putIn id slot entries).find? (·.1 == other) =
      if other = id then some (id, slot) else entries.find? (·.1 == other) := by
  induction entries with
  | nil =>
      by_cases same : other = id
      · simp [putIn, same]
      · simp [putIn, same, Ne.symm same]
  | cons entry entries ih =>
      by_cases here : entry.1 = id
      · by_cases same : other = id
        · simp [putIn, here, same]
        · simp [putIn, here, same, Ne.symm same]
      · by_cases wanted : entry.1 = other
        · have different : other ≠ id := fun same => here (wanted.trans same)
          simp [putIn, wanted, different]
        · simp [putIn, here, wanted, ih]

theorem slot_put (cache : FileCache) (id other : FileId) (slot : FileSlot) :
    (cache.put id slot).slot other = if other = id then slot else cache.slot other := by
  by_cases same : other = id
  · simp [FileCache.slot, put, find?_putIn, same]
  · simp [FileCache.slot, put, find?_putIn, same]

@[simp]
theorem cell_withCell (cache : FileCache) (key : Key) (cell : Cell key.kind.Value) :
    (cache.withCell key cell).cell key = cell := by
  rcases key with ⟨id, kind⟩
  cases kind <;> simp [withCell, FileCache.cell, slot_put]

theorem cell_withCell_of_ne (cache : FileCache) {key other : Key} (different : other ≠ key)
    (cell : Cell key.kind.Value) : (cache.withCell key cell).cell other = cache.cell other := by
  rcases key with ⟨id, kind⟩
  rcases other with ⟨otherId, otherKind⟩
  by_cases sameId : otherId = id
  · subst sameId
    cases kind <;> cases otherKind <;> simp [withCell, FileCache.cell, slot_put] at different ⊢
  · cases kind <;> cases otherKind <;> simp [withCell, FileCache.cell, slot_put, sameId]

@[simp]
theorem generation_withCell (cache : FileCache) (key : Key) (cell : Cell key.kind.Value) :
    (cache.withCell key cell).generation = cache.generation := by
  rcases key with ⟨id, kind⟩
  cases kind <;> rfl

@[simp]
theorem cell_reset (cache : FileCache) (key : Key) : cache.reset.cell key = cache.cell key := by
  rcases key with ⟨id, kind⟩
  cases kind <;> rfl

@[simp]
theorem cell_empty (key : Key) : empty.cell key = .empty := by
  rcases key with ⟨id, kind⟩
  cases kind <;> rfl

/-! ## Answers backed by readings -/

namespace Key

variable {key : Key}

theorem answers_error {error : FileError} {answer : Except FileError key.kind.Value} :
    key.Answers (.error error) answer ↔
      ∃ error', answer = .error error' ∧ error'.bare = error.bare := by
  rcases key with ⟨id, kind⟩
  cases kind <;> cases answer <;>
    simp [Answers, Outcome.seen, Outcome.ofExcept, Key.answer, bind, Except.bind]

/-- Readings that cannot be told apart have the same answers. -/
theorem Answers.congr {left right : Except FileError Bytes}
    {answer : Except FileError key.kind.Value} (answers : key.Answers left answer)
    (equal : left.mapError FileError.bare = right.mapError FileError.bare) :
    key.Answers right answer := by
  cases left with
  | ok content =>
      cases right with
      | ok content' =>
          cases equal
          exact answers
      | error error => cases equal
  | error error =>
      cases right with
      | ok content => cases equal
      | error error' =>
          rcases answers_error.mp answers with ⟨given, rfl, same⟩
          exact answers_error.mpr ⟨given, rfl, same.trans (Except.error.inj equal)⟩

theorem wellFormed_of_answers {id : FileId} {reading : Except FileError Bytes} {source : Source}
    (answers : Answers ⟨id, .source⟩ reading (.ok source)) :
    source.WellFormed ∧ source.id = id := by
  cases reading with
  | error error =>
      rcases answers_error.mp answers with ⟨error', impossible, _⟩
      cases impossible
  | ok content =>
      simp only [Answers, Key.answer, bind, Except.bind] at answers
      cases decoded : FileSlot.readText content (some id) with
      | error error =>
          simp only [decoded] at answers
          cases answers
      | ok text =>
          simp only [decoded] at answers
          have equal := Outcome.value.inj answers
          rcases Source.WellFormed.of_pristine_eq equal with ⟨wellFormed, ids, _⟩
          exact ⟨wellFormed, ids⟩

/-- From new bytes and any previous value the answer to the bytes is made. -/
theorem make_answers (content : Bytes) {previous : Option key.kind.Value}
    (known : ∀ value, previous = some value → ∃ reading, key.Answers reading (.ok value)) :
    ∃ answer, key.make content previous = .ofExcept answer ∧ key.Answers (.ok content) answer := by
  rcases key with ⟨id, kind⟩
  cases kind with
  | bytes => exact ⟨.ok content, rfl, rfl⟩
  | source =>
      cases decoded : FileSlot.readText content (some id) with
      | error error =>
          refine ⟨.error error, ?_, ?_⟩
          · simp only [make, FileSlot.parse, decoded]
            rfl
          · simp [Answers, Key.answer, bind, Except.bind, decoded]
      | ok text =>
          cases previous with
          | none =>
              refine ⟨.ok (.ofText id text), ?_, ?_⟩
              · simp only [make, FileSlot.parse, decoded]
                rfl
              · simp only [Answers, Key.answer, bind, Except.bind, decoded]
                rfl
          | some source =>
              rcases known source rfl with ⟨reading, answers⟩
              rcases wellFormed_of_answers answers with ⟨wellFormed, ids⟩
              have edited := wellFormed.replace text
              simp only [Source.WellFormed, Source.id_replace, Source.text_replace, ids] at edited
              refine ⟨.ok (source.replace text).1, ?_, ?_⟩
              · simp only [make, FileSlot.parse, decoded]
                rfl
              · simp only [Answers, Key.answer, bind, Except.bind, decoded]
                exact congrArg Outcome.value edited

end Key

def Backed (key : Key) (readings : List (Except FileError Bytes)) (cell : Cell key.kind.Value) :
    Prop :=
  ∀ answer, cell.answer = some answer →
    ∃ reading ∈ readings, cell.fingerprint = some (fingerprint reading) ∧
      key.Answers reading answer

namespace Backed

variable {key : Key} {readings more : List (Except FileError Bytes)} {cell : Cell key.kind.Value}

theorem empty (key : Key) (readings : List (Except FileError Bytes)) :
    Backed key readings .empty := by
  intro answer held
  cases held

theorem mono (backed : Backed key readings cell) (subset : readings ⊆ more) :
    Backed key more cell := by
  intro answer held
  rcases backed answer held with ⟨reading, member, rest⟩
  exact ⟨reading, subset member, rest⟩

theorem value? (backed : Backed key readings cell) {value : key.kind.Value}
    (known : cell.value? = some value) : ∃ reading, key.Answers reading (.ok value) := by
  have held : cell.answer = some (.ok value) := by
    simp only [Cell.value?] at known
    split at known
    · next held =>
        cases known
        exact held
    · cases known
  rcases backed (.ok value) held with ⟨reading, _, _, answers⟩
  exact ⟨reading, answers⟩

theorem answerTo (backed : Backed key readings cell) (reading : Except FileError Bytes) :
    ∃ answer, Cell.answerTo key.make cell.value? reading = .ofExcept answer ∧
      key.Answers reading answer := by
  cases reading with
  | ok content => exact Key.make_answers content fun value known => backed.value? known
  | error error => exact ⟨.error error, rfl, Key.answers_error.mpr ⟨error, rfl, rfl⟩⟩

/-- Taking in a reading gives an answer, which the cell keeps with the fingerprint. -/
theorem takeIn (backed : Backed key readings cell) (reading : Except FileError Bytes) :
    ∃ answer, (cell.takeIn reading key.make).outcome = .ofExcept answer ∧
      (cell.takeIn reading key.make).cell.answer = some answer ∧
      (cell.takeIn reading key.make).cell.fingerprint = some (fingerprint reading) ∧
      Backed key (reading :: readings) (cell.takeIn reading key.make).cell ∧
      (CollisionFree (reading :: readings) → key.Answers reading answer) := by
  rcases cell.takeIn_cases reading key.make with ⟨answer, held, same, does⟩ | ⟨_, does⟩
  · simp only [does]
    refine ⟨answer, rfl, held, same, backed.mono (List.subset_cons_self _ _), ?_⟩
    intro free
    rcases backed answer held with ⟨source, member, fingerprints, answers⟩
    have equal := Option.some.inj (fingerprints.symm.trans same)
    exact answers.congr
      (free.mapError_bare_eq (List.mem_cons_of_mem _ member) List.mem_cons_self equal)
  · rcases backed.answerTo reading with ⟨answer, outcome, answers⟩
    rw [does, outcome]
    refine ⟨answer, rfl, by simp, rfl, ?_, fun _ => answers⟩
    intro held kept
    simp only [Outcome.settled?_ofExcept] at kept
    cases kept
    exact ⟨reading, List.mem_cons_self, rfl, answers⟩

end Backed

end FileCache

end Typeset
