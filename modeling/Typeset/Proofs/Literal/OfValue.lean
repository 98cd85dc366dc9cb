import Typeset.Literal.OfValue
import Typeset.Proofs.Literal.ReadBack
import Typeset.Proofs.Value.Listing

/-!
# Encoded values read back

The literal that a value of the host gets is one that can be read back from its text, so
the text of a value tells its literal: nothing that a string, a key or the name of a field
holds ends the literal that it stands in, and two values have one text only if they have
one literal.
-/

namespace Typeset.Value

variable {context : EncodingContext}

theorem bind_eq_ok_iff {α β : Type} {result : Except Fault α} {next : α → Except Fault β}
    {product : β} :
    result >>= next = .ok product ↔ ∃ item, result = .ok item ∧ next item = .ok product := by
  cases result with
  | error fault => simp [Bind.bind, Except.bind]
  | ok item => simp [Bind.bind, Except.bind]

/-! ## Collected items -/

theorem collectItems_eq_ok_iff {results : List (Except Fault Literal)} {items : List Literal} :
    collectItems results = .ok items ↔ results = items.map .ok := by
  induction results generalizing items with
  | nil =>
      constructor
      · intro collected
        cases collected
        rfl
      · intro listed
        rw [List.map_eq_nil_iff.mp listed.symm]
        rfl
  | cons result results ih =>
      simp only [collectItems, bind_eq_ok_iff, ih]
      constructor
      · rintro ⟨first, rfl, later, rfl, same⟩
        cases same
        rfl
      · intro listed
        rcases List.map_eq_cons_iff.mp listed.symm with ⟨first, later, rfl, rfl, rfl⟩
        exact ⟨first, rfl, later, rfl, rfl⟩

theorem collectEntries_eq_ok_iff {results : List (String × Except Fault Literal)}
    {entries : List (String × Literal)} :
    collectEntries results = .ok entries ↔
      results = entries.map fun entry => (entry.1, .ok entry.2) := by
  induction results generalizing entries with
  | nil =>
      constructor
      · intro collected
        cases collected
        rfl
      · intro listed
        rw [List.map_eq_nil_iff.mp listed.symm]
        rfl
  | cons result results ih =>
      rcases result with ⟨key, result⟩
      simp only [collectEntries, bind_eq_ok_iff, ih]
      constructor
      · rintro ⟨first, rfl, later, rfl, same⟩
        cases same
        rfl
      · intro listed
        rcases List.map_eq_cons_iff.mp listed.symm with ⟨first, later, rfl, same, rfl⟩
        cases same
        exact ⟨first.2, rfl, later, rfl, rfl⟩

theorem mem_of_collectItems {results : List (Except Fault Literal)} {items : List Literal}
    (collected : collectItems results = .ok items) {item : Literal} (member : item ∈ items) :
    .ok item ∈ results := by
  rw [collectItems_eq_ok_iff.mp collected]
  exact List.mem_map_of_mem member

theorem mem_of_collectEntries {results : List (String × Except Fault Literal)}
    {entries : List (String × Literal)} (collected : collectEntries results = .ok entries)
    {entry : String × Literal} (member : entry ∈ entries) : (entry.1, .ok entry.2) ∈ results := by
  rw [collectEntries_eq_ok_iff.mp collected]
  exact List.mem_map_of_mem member

theorem literals_eq_map (context : EncodingContext) (items : List Value) :
    literals context items = items.map (literal context) := by
  induction items with
  | nil => rfl
  | cons item items ih => rw [literals, ih, List.map_cons]

theorem length_literals (context : EncodingContext) (items : List Value) :
    (literals context items).length = items.length := by
  rw [literals_eq_map, List.length_map]

/-- The literal of an entry's value, unless its key has no text. -/
def entryLiteral (context : EncodingContext) (key value : Value) : Except Fault Literal :=
  if key.hasText then value.literal context else .error unwritten

theorem entryLiteral_eq_ok_iff {key value : Value} {tree : Literal} :
    entryLiteral context key value = .ok tree ↔
      key.hasText = true ∧ value.literal context = .ok tree := by
  unfold entryLiteral
  split
  · next text => exact ⟨fun given => ⟨text, given⟩, fun given => given.2⟩
  · next none => exact ⟨nofun, fun given => absurd given.1 none⟩

theorem entryLiterals_eq_map (context : EncodingContext) (entries : List (Value × Value)) :
    entryLiterals context entries =
      entries.map fun entry => (entry.1.plainText, entryLiteral context entry.1 entry.2) := by
  induction entries with
  | nil => rfl
  | cons entry entries ih =>
      rw [entryLiterals, ih, List.map_cons]
      rfl

theorem fieldLiterals_eq_map (context : EncodingContext) (fields : List (String × Value)) :
    fieldLiterals context fields =
      fields.map fun field => (field.1, field.2.literal context) := by
  induction fields with
  | nil => rfl
  | cons field fields ih => rw [fieldLiterals, ih, List.map_cons]

/-- To list the elements of a set loses nothing that goes with them. -/
theorem perm_of_inListedOrder? {α : Type} {items : List Value} {attached listed : List α}
    (lengths : attached.length = items.length)
    (ordered : inListedOrder? items attached = some listed) : listed.Perm attached := by
  unfold inListedOrder? at ordered
  split at ordered
  · next places sorted =>
      cases ordered
      have order := (perm_of_listedPlaces sorted).filterMap (attached[·]?)
      rwa [← lengths, filterMap_range] at order
  · cases ordered
    exact .refl _
  · cases ordered

theorem select_subset (fields : List (String × Except Fault Literal)) (names : List String) :
    select fields names ⊆ fields := by
  intro field member
  rcases List.mem_filterMap.mp member with ⟨name, _, found⟩
  exact List.mem_of_find?_eq_some found

/-! ## The literal of a value -/

theorem readable_floatLiteral (value : Number.Binary64) : (floatLiteral value).Readable := by
  cases value with
  | notANumber => exact .floatNaN
  | infinite negative => exact .floatInfinity negative
  | finite negative mantissa exponent =>
      exact .float (Number.plain_render_finite negative mantissa exponent)

theorem readable_instantLiteral {instant : Instant} {tree : Literal}
    (given : instantLiteral context instant = .ok tree) : tree.Readable := by
  unfold instantLiteral at given
  split at given
  · cases given
    exact .moment ..
  · rcases bind_eq_ok_iff.mp given with ⟨offset, _, shifted⟩
    split at shifted
    · cases shifted
      exact .moment ..
    · cases shifted

mutual
theorem readable_of_literal (context : EncodingContext) (value : Value) {tree : Literal}
    (given : value.literal context = .ok tree) : tree.Readable := by
  cases value with
  | nothing =>
      cases given
      exact .nothing
  | bool value =>
      cases given
      exact .bool value
  | int value =>
      simp only [literal] at given
      split at given
      · cases given
        exact .int value
      · cases given
  | float value =>
      cases given
      exact readable_floatLiteral value
  | decimal value =>
      cases given
      exact .decimal (Number.Decimal.plain_render value)
  | text value =>
      cases given
      exact .text value
  | bytes content =>
      cases given
      exact .bytes content
  | array frozen items =>
      rcases bind_eq_ok_iff.mp given with ⟨trees, collected, same⟩
      cases same
      exact .array fun item member =>
        readable_of_literals context items (mem_of_collectItems collected member)
  | set frozen items =>
      simp only [literal] at given
      split at given
      · next listed ordered =>
          rcases bind_eq_ok_iff.mp given with ⟨trees, collected, same⟩
          cases same
          have listing := perm_of_inListedOrder? (length_literals context items) ordered
          exact .array fun item member => readable_of_literals context items
            (listing.subset (mem_of_collectItems collected member))
      · cases given
  | mapping entries =>
      rcases bind_eq_ok_iff.mp given with ⟨trees, collected, same⟩
      cases same
      exact .dictionary fun entry member =>
        readable_of_entryLiterals context entries (mem_of_collectEntries collected member)
  | member type name value => exact readable_of_literal context value given
  | standard choice =>
      cases given
      exact .text choice.value
  | date day =>
      cases given
      exact .date ..
  | time clock =>
      cases given
      exact .time ..
  | instant moment => exact readable_instantLiteral given
  | record type fields =>
      rcases bind_eq_ok_iff.mp given with ⟨trees, collected, same⟩
      cases same
      apply Literal.Readable.dictionary
      intro entry member
      have kept := mem_of_collectEntries collected member
      split at kept
      · exact readable_of_fieldLiterals context fields (select_subset _ _ kept)
      · exact readable_of_fieldLiterals context fields kept
  | foreign type => cases given

theorem readable_of_literals (context : EncodingContext) (items : List Value) {tree : Literal}
    (given : .ok tree ∈ literals context items) : tree.Readable := by
  cases items with
  | nil => cases given
  | cons item items =>
      rcases List.mem_cons.mp given with first | later
      · exact readable_of_literal context item first.symm
      · exact readable_of_literals context items later

theorem readable_of_entryLiterals (context : EncodingContext) (entries : List (Value × Value))
    {key : String} {tree : Literal} (given : (key, .ok tree) ∈ entryLiterals context entries) :
    tree.Readable := by
  cases entries with
  | nil => cases given
  | cons entry entries =>
      rcases entry with ⟨name, item⟩
      rcases List.mem_cons.mp given with first | later
      · have value : entryLiteral context name item = .ok tree := (Prod.mk.inj first).2.symm
        exact readable_of_literal context item (entryLiteral_eq_ok_iff.mp value).2
      · exact readable_of_entryLiterals context entries later

theorem readable_of_fieldLiterals (context : EncodingContext) (fields : List (String × Value))
    {key : String} {tree : Literal} (given : (key, .ok tree) ∈ fieldLiterals context fields) :
    tree.Readable := by
  cases fields with
  | nil => cases given
  | cons field fields =>
      rcases field with ⟨name, item⟩
      rcases List.mem_cons.mp given with first | later
      · exact readable_of_literal context item (Prod.mk.inj first).2.symm
      · exact readable_of_fieldLiterals context fields later
end

/-! ## The text of a value -/

theorem encode_eq_ok_iff {value : Value} {text : String} :
    value.encode context = .ok text ↔
      ∃ tree, value.literal context = .ok tree ∧ tree.render = text := by
  rw [encode, bind_eq_ok_iff]
  apply exists_congr
  intro tree
  exact and_congr_right fun _ => Except.ok.injEq tree.render text ▸ Iff.rfl

theorem read?_of_encode {value : Value} {text : String}
    (encoded : value.encode context = .ok text) :
    ∃ tree, value.literal context = .ok tree ∧
      ∀ rest, Literal.read? (text.toList ++ rest) = some (tree, rest) := by
  rcases encode_eq_ok_iff.mp encoded with ⟨tree, given, rfl⟩
  refine ⟨tree, given, ?_⟩
  intro rest
  rw [Literal.render, String.toList_ofList]
  exact (readable_of_literal context value given).read? rest

end Typeset.Value
