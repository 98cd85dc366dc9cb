import Mathlib.Data.List.Nodup
import Typeset.Proofs.Literal.OfValue
import Typeset.Proofs.Number.Quantity

/-!
# Entries of mappings

The literal of a mapping has one entry for each entry of the mapping, in its order, wherever the
mapping stands in a value. The key of such an entry is the text of the mapping's key, so the
entries can be told apart exactly if the keys of the mapping have different texts. Keys may differ
and have one text, such as `1` and `"1"`; among texts, and among whole numbers and truth values,
there are no such keys.
-/

namespace Typeset

/-- A literal stands in another one, as an item of an array or under a key of a dictionary. -/
inductive Literal.Holds (part : Literal) : Literal → Prop
  | itself : Holds part part
  | item {items : List Literal} {item : Literal} (member : item ∈ items)
      (inside : Holds part item) : Holds part (.array items)
  | entry {entries : List (String × Literal)} {entry : String × Literal}
      (member : entry ∈ entries) (inside : Holds part entry.2) : Holds part (.dictionary entries)

namespace Value

variable {context : EncodingContext} {value part : Value}

/-- A value whose literal stands in the literal of another one. -/
inductive Shows (context : EncodingContext) (part : Value) : Value → Prop
  | itself : Shows context part part
  | item (frozen : Bool) {items : List Value} {item : Value} (member : item ∈ items)
      (inside : Shows context part item) : Shows context part (.array frozen items)
  | element (frozen : Bool) {items : List Value} {item : Value} (member : item ∈ items)
      (inside : Shows context part item) : Shows context part (.set frozen items)
  | entry {entries : List (Value × Value)} {entry : Value × Value} (member : entry ∈ entries)
      (inside : Shows context part entry.2) : Shows context part (.mapping entries)
  | member (type name : String) {value : Value} (inside : Shows context part value) :
      Shows context part (.member type name value)
  | field {type : String} {fields : List (String × Value)} {field : String × Value}
      (all : context.fieldsOf? type = none) (member : field ∈ fields)
      (inside : Shows context part field.2) : Shows context part (.record type fields)
  /-- If the fields of a type are limited, only those that are selected stand in the literal. -/
  | selected {type : String} {fields : List (String × Value)} {field : String × Value}
      {names : List String} (limited : context.fieldsOf? type = some names)
      (chosen : field.1 ∈ names) (found : fields.find? (·.1 == field.1) = some field)
      (inside : Shows context part field.2) : Shows context part (.record type fields)

/-- No two keys have one text. -/
def PrintApart (entries : List (Value × Value)) : Prop :=
  entries.Pairwise fun left right => left.1.plainText ≠ right.1.plainText

/-- No two keys are one key, in either order of comparison. -/
def KeysDiffer (entries : List (Value × Value)) : Prop :=
  entries.Pairwise fun left right => same left.1 right.1 = false

/-- Whether a key is a text of its own. -/
def isText : Value → Bool
  | .text _ => true
  | _ => false

/-- Whether a key is nothing, a truth value or a whole number. -/
def isBasic : Value → Bool
  | .nothing | .bool _ | .int _ => true
  | _ => false

/-! ## Literals of mappings -/

theorem exists_of_map_eq {α β γ : Type} {left : α → γ} {right : β → γ} {items : List α}
    {products : List β} (listed : items.map left = products.map right) {item : α}
    (member : item ∈ items) : ∃ product ∈ products, left item = right product := by
  have among := List.mem_map_of_mem (f := left) member
  rw [listed] at among
  rcases List.mem_map.mp among with ⟨product, inside, same⟩
  exact ⟨product, inside, same.symm⟩

/-- The literals of entries are literals of their values, if all keys have a text. -/
theorem map_entryLiteral_iff {entries : List (Value × Value)} {pairs : List (String × Literal)} :
    entries.map (fun entry => (entry.1.plainText, entryLiteral context entry.1 entry.2)) =
        pairs.map (fun pair => (pair.1, .ok pair.2)) ↔
      (∀ entry ∈ entries, entry.1.hasText = true) ∧
        entries.map (fun entry => (entry.1.plainText, entry.2.literal context)) =
          pairs.map fun pair => (pair.1, .ok pair.2) := by
  induction entries generalizing pairs with
  | nil => simp
  | cons entry entries ih =>
      cases pairs with
      | nil => simp
      | cons pair pairs =>
          simp only [List.map_cons, List.cons.injEq, Prod.mk.injEq, entryLiteral_eq_ok_iff, ih,
            List.forall_mem_cons]
          constructor
          · rintro ⟨⟨key, text, given⟩, texts, later⟩
            exact ⟨⟨text, texts⟩, ⟨key, given⟩, later⟩
          · rintro ⟨⟨text, texts⟩, ⟨key, given⟩, later⟩
            exact ⟨⟨key, text, given⟩, texts, later⟩

theorem literal_mapping_eq_ok_iff {entries : List (Value × Value)} {tree : Literal} :
    (mapping entries).literal context = .ok tree ↔
      (∀ entry ∈ entries, entry.1.hasText = true) ∧ ∃ pairs, tree = .dictionary pairs ∧
        entries.map (fun entry => (entry.1.plainText, entry.2.literal context)) =
          pairs.map fun pair => (pair.1, .ok pair.2) := by
  rw [literal, bind_eq_ok_iff, entryLiterals_eq_map, ← exists_and_left]
  apply exists_congr
  intro pairs
  rw [collectEntries_eq_ok_iff, map_entryLiteral_iff]
  constructor
  · rintro ⟨⟨texts, listed⟩, same⟩
    cases same
    exact ⟨texts, rfl, listed⟩
  · rintro ⟨texts, rfl, listed⟩
    exact ⟨⟨texts, listed⟩, rfl⟩

theorem exists_pairs {entries : List (Value × Value)}
    (each : ∀ entry ∈ entries, ∃ tree, entry.2.literal context = .ok tree) :
    ∃ pairs : List (String × Literal),
      entries.map (fun entry => (entry.1.plainText, entry.2.literal context)) =
        pairs.map fun pair => (pair.1, .ok pair.2) := by
  induction entries with
  | nil => exact ⟨[], rfl⟩
  | cons entry entries ih =>
      rw [List.forall_mem_cons] at each
      rcases each.1 with ⟨first, given⟩
      rcases ih each.2 with ⟨pairs, listed⟩
      refine ⟨(entry.1.plainText, first) :: pairs, ?_⟩
      rw [List.map_cons, List.map_cons, listed, given]

/-- A mapping has a literal exactly if each of its keys has a text and each value a literal. -/
theorem exists_literal_mapping_iff {entries : List (Value × Value)} :
    (∃ tree, (mapping entries).literal context = .ok tree) ↔
      ∀ entry ∈ entries, entry.1.hasText = true ∧
        ∃ tree, entry.2.literal context = .ok tree := by
  simp only [literal_mapping_eq_ok_iff]
  constructor
  · rintro ⟨_, texts, pairs, _, listed⟩ entry member
    rcases exists_of_map_eq listed member with ⟨pair, _, same⟩
    exact ⟨texts entry member, pair.2, (Prod.mk.inj same).2⟩
  · intro each
    rcases exists_pairs fun entry member => (each entry member).2 with ⟨pairs, listed⟩
    exact ⟨_, fun entry member => (each entry member).1, pairs, rfl, listed⟩

/-! ## Values within values -/

theorem exists_listed_of_set {frozen : Bool} {items : List Value} {tree : Literal}
    (given : (set frozen items).literal context = .ok tree) :
    ∃ trees, tree = .array trees ∧ ∀ item ∈ items, ∃ product ∈ trees,
      item.literal context = .ok product := by
  simp only [literal] at given
  split at given
  · next listed ordered =>
      rcases bind_eq_ok_iff.mp given with ⟨trees, collected, same⟩
      cases same
      refine ⟨trees, rfl, ?_⟩
      intro item member
      have listing := perm_of_inListedOrder? (length_literals context items) ordered
      rw [literals_eq_map, collectItems_eq_ok_iff.mp collected] at listing
      have among := listing.mem_iff.mpr (List.mem_map_of_mem (f := literal context) member)
      rcases List.mem_map.mp among with ⟨product, inside, same⟩
      exact ⟨product, inside, same.symm⟩
  · cases given

/-- The literals of the fields of a record that its literal keeps. -/
def keptLiterals (context : EncodingContext) (type : String) (fields : List (String × Value)) :
    List (String × Except Fault Literal) :=
  match context.fieldsOf? type with
  | some names => select (fieldLiterals context fields) names
  | none => fieldLiterals context fields

theorem literal_record (context : EncodingContext) (type : String)
    (fields : List (String × Value)) :
    (record type fields).literal context =
      return .dictionary (← collectEntries (keptLiterals context type fields)) :=
  rfl

/-- What a record keeps of its fields stands in its literal. -/
theorem exists_entry_of_kept {type : String} {fields : List (String × Value)} {tree : Literal}
    (given : (record type fields).literal context = .ok tree) {name : String}
    {result : Except Fault Literal} (kept : (name, result) ∈ keptLiterals context type fields) :
    ∃ pairs, tree = .dictionary pairs ∧ ∃ pair ∈ pairs, result = .ok pair.2 := by
  rw [literal_record] at given
  rcases bind_eq_ok_iff.mp given with ⟨pairs, collected, same⟩
  cases same
  refine ⟨pairs, rfl, ?_⟩
  rw [collectEntries_eq_ok_iff.mp collected] at kept
  rcases List.mem_map.mp kept with ⟨pair, inside, same⟩
  exact ⟨pair, inside, (Prod.mk.inj same).2.symm⟩

theorem find?_fieldLiterals (context : EncodingContext) (fields : List (String × Value))
    (name : String) :
    (fieldLiterals context fields).find? (·.1 == name) =
      (fields.find? (·.1 == name)).map fun field => (field.1, field.2.literal context) := by
  rw [fieldLiterals_eq_map, List.find?_map]
  rfl

theorem mem_keptLiterals {type : String} {fields : List (String × Value)} {field : String × Value}
    (all : context.fieldsOf? type = none) (member : field ∈ fields) :
    (field.1, field.2.literal context) ∈ keptLiterals context type fields := by
  rw [keptLiterals, all, fieldLiterals_eq_map]
  exact List.mem_map_of_mem (f := fun field => (field.1, field.2.literal context)) member

theorem mem_keptLiterals_of_chosen {type : String} {fields : List (String × Value)}
    {field : String × Value} {names : List String}
    (limited : context.fieldsOf? type = some names) (chosen : field.1 ∈ names)
    (found : fields.find? (·.1 == field.1) = some field) :
    (field.1, field.2.literal context) ∈ keptLiterals context type fields := by
  rw [keptLiterals, limited]
  apply List.mem_filterMap.mpr
  refine ⟨field.1, List.mem_eraseDups.mpr chosen, ?_⟩
  rw [find?_fieldLiterals, found, Option.map_some]

theorem Shows.trans {middle : Value} (inner : Shows context part middle)
    (outer : Shows context middle value) : Shows context part value := by
  induction outer with
  | itself => exact inner
  | item frozen member _ ih => exact .item frozen member ih
  | element frozen member _ ih => exact .element frozen member ih
  | entry member _ ih => exact .entry member ih
  | member type name _ ih => exact .member type name ih
  | field all member _ ih => exact .field all member ih
  | selected limited chosen found _ ih => exact .selected limited chosen found ih

/-- What stands in a value has a literal, and this stands in the literal of the value. -/
theorem Shows.holds (shows : Shows context part value) {tree : Literal}
    (given : value.literal context = .ok tree) :
    ∃ piece, part.literal context = .ok piece ∧ piece.Holds tree := by
  induction shows generalizing tree with
  | itself => exact ⟨tree, given, .itself⟩
  | item frozen member _ ih =>
      rcases bind_eq_ok_iff.mp given with ⟨trees, collected, same⟩
      cases same
      rw [literals_eq_map, collectItems_eq_ok_iff] at collected
      rcases exists_of_map_eq collected member with ⟨product, inside, given⟩
      rcases ih given with ⟨piece, has, holds⟩
      exact ⟨piece, has, .item inside holds⟩
  | element frozen member _ ih =>
      rcases exists_listed_of_set given with ⟨trees, rfl, listed⟩
      rcases listed _ member with ⟨product, inside, given⟩
      rcases ih given with ⟨piece, has, holds⟩
      exact ⟨piece, has, .item inside holds⟩
  | entry member _ ih =>
      rcases literal_mapping_eq_ok_iff.mp given with ⟨_, pairs, rfl, listed⟩
      rcases exists_of_map_eq listed member with ⟨pair, inside, same⟩
      rcases ih (Prod.mk.inj same).2 with ⟨piece, has, holds⟩
      exact ⟨piece, has, .entry inside holds⟩
  | member _ _ _ ih => exact ih given
  | field all member _ ih =>
      rcases exists_entry_of_kept given (mem_keptLiterals all member) with
        ⟨pairs, rfl, pair, inside, given⟩
      rcases ih given with ⟨piece, has, holds⟩
      exact ⟨piece, has, .entry inside holds⟩
  | selected limited chosen found _ ih =>
      rcases exists_entry_of_kept given (mem_keptLiterals_of_chosen limited chosen found) with
        ⟨pairs, rfl, pair, inside, given⟩
      rcases ih given with ⟨piece, has, holds⟩
      exact ⟨piece, has, .entry inside holds⟩

/-! ## Texts of keys -/

theorem nodup_iff_printApart {entries : List (Value × Value)} {pairs : List (String × Literal)}
    (listed : entries.map (fun entry => (entry.1.plainText, entry.2.literal context)) =
      pairs.map fun pair => (pair.1, .ok pair.2)) :
    (pairs.map (·.1)).Nodup ↔ PrintApart entries := by
  have keys : pairs.map (·.1) = entries.map (·.1.plainText) := by
    have firsts := congrArg (List.map (·.1)) listed
    rw [List.map_map, List.map_map] at firsts
    exact firsts.symm
  rw [keys, List.Nodup, List.pairwise_map, PrintApart]

/-- Under the text of a key stands the literal of the key's value, and nothing else. -/
theorem mem_pairs_iff {entries : List (Value × Value)} {pairs : List (String × Literal)}
    (listed : entries.map (fun entry => (entry.1.plainText, entry.2.literal context)) =
      pairs.map fun pair => (pair.1, .ok pair.2))
    (apart : PrintApart entries) {entry : Value × Value} (member : entry ∈ entries)
    {tree : Literal} :
    (entry.1.plainText, tree) ∈ pairs ↔ entry.2.literal context = .ok tree := by
  constructor
  · intro inside
    rcases exists_of_map_eq listed.symm inside with ⟨other, among, same⟩
    have distinct : (entries.map (·.1.plainText)).Nodup := List.pairwise_map.mpr apart
    have one : entry = other :=
      List.inj_on_of_nodup_map distinct member among (Prod.mk.inj same).1
    rw [one]
    exact (Prod.mk.inj same).2.symm
  · intro given
    rcases exists_of_map_eq listed member with ⟨pair, inside, same⟩
    have pieces := Prod.mk.inj same
    rw [given] at pieces
    cases pieces.2
    rw [pieces.1]
    exact inside

theorem same_of_texts {left right : Value} (first : left.isText) (second : right.isText)
    (printed : left.plainText = right.plainText) : same left right = true := by
  cases left <;> cases first
  cases right <;> cases second
  simp only [same]
  exact beq_iff_eq.mpr printed

/-- No whole number is written with a letter, as what is nothing and truth values are. -/
theorem toString_int_ne {number : Int} {word : String} (letter : 'e' ∈ word.toList) :
    toString number ≠ word := by
  rintro rfl
  exact absurd (Number.isDigit_or_minus_of_mem_toString letter) (by decide)

theorem same_int (number : Int) : same (.int number) (.int number) = true := by
  simp only [same]
  exact (Number.Quantity.same_iff (Number.Quantity.proper_ofInt number)
    (Number.Quantity.proper_ofInt number)).mpr ⟨_, rfl, rfl⟩

theorem same_of_basics {left right : Value} (first : left.isBasic) (second : right.isBasic)
    (printed : left.plainText = right.plainText) : same left right = true := by
  cases left with
  | nothing =>
      cases right with
      | nothing => simp only [same, sameScalar, quantity?, text?]
      | bool flag => cases flag <;> exact absurd printed (by decide)
      | int number => exact absurd printed.symm (toString_int_ne (by decide))
      | _ => cases second
  | bool flag =>
      cases right with
      | nothing => cases flag <;> exact absurd printed (by decide)
      | bool flag' =>
          simp only [same]
          cases flag <;> cases flag' <;> first | rfl | exact absurd printed (by decide)
      | int number => cases flag <;> exact absurd printed.symm (toString_int_ne (by decide))
      | _ => cases second
  | int number =>
      cases right with
      | nothing => exact absurd printed (toString_int_ne (by decide))
      | bool flag => cases flag <;> exact absurd printed (toString_int_ne (by decide))
      | int number' =>
          cases Number.toString_int_injective printed
          exact same_int number
      | _ => cases second
  | _ => cases first

/-- Keys differ in their texts if no two different ones of their kind have one text. -/
theorem printApart_of_kind {kind : Value → Bool} {entries : List (Value × Value)}
    (told : ∀ left right : Value, kind left → kind right → left.plainText = right.plainText →
      same left right = true)
    (each : ∀ entry ∈ entries, kind entry.1) (differ : KeysDiffer entries) :
    PrintApart entries := by
  apply List.Pairwise.imp_of_mem _ differ
  intro left right member member' different printed
  rw [told left.1 right.1 (each left member) (each right member') printed] at different
  cases different

/-! ## Keys of mappings -/

theorem key_of_mem_putEntry {key value : Value} {entries : List (Value × Value)}
    {entry : Value × Value} (member : entry ∈ putEntry key value entries) :
    entry.1 = key ∨ ∃ other ∈ entries, entry.1 = other.1 := by
  induction entries with
  | nil =>
      rw [List.mem_singleton.mp member]
      exact .inl rfl
  | cons first entries ih =>
      rw [putEntry] at member
      split at member
      · right
        rcases List.mem_cons.mp member with rfl | later
        · exact ⟨first, List.mem_cons_self, rfl⟩
        · exact ⟨entry, List.mem_cons_of_mem _ later, rfl⟩
      · rcases List.mem_cons.mp member with rfl | later
        · exact .inr ⟨entry, List.mem_cons_self, rfl⟩
        · apply (ih later).imp_right
          rintro ⟨other, among, equal⟩
          exact ⟨other, List.mem_cons_of_mem _ among, equal⟩

theorem keysDiffer_putEntry {entries : List (Value × Value)} (differ : KeysDiffer entries)
    (key value : Value) : KeysDiffer (putEntry key value entries) := by
  induction entries with
  | nil => exact List.pairwise_singleton _ _
  | cons first entries ih =>
      rcases List.pairwise_cons.mp differ with ⟨apart, later⟩
      rw [putEntry]
      split
      · exact List.pairwise_cons.mpr ⟨apart, later⟩
      · next different =>
          apply List.pairwise_cons.mpr
          refine ⟨?_, ih later⟩
          intro entry member
          rcases key_of_mem_putEntry member with equal | ⟨other, among, equal⟩
          · rw [equal]
            exact Bool.eq_false_iff.mpr different
          · rw [equal]
            exact apart other among

/-- A mapping that is made of entries has no two equal keys, whatever keys the entries have. -/
theorem exists_ofEntries (entries : List (Value × Value)) :
    ∃ kept, ofEntries entries = .mapping kept ∧ KeysDiffer kept := by
  refine ⟨_, rfl, ?_⟩
  apply List.foldlRecOn entries
  · exact List.Pairwise.nil
  · intro kept differ entry _
    exact keysDiffer_putEntry differ entry.1 entry.2

/-! ## Texts of mappings -/

/--
A mapping has a text exactly if each of its values has one and each of its keys can be written,
in which no integer is too long. Wherever the mapping stands in a value that has a text, the
literal read back from the text holds a dictionary with one entry for each entry of the mapping,
in its order, under the text of the key; the keys of the dictionary are pairwise different exactly
if those texts are, and then every value is found again under the text of its key and nothing else
is. Keys that are not equal have different texts if all are texts, or all are nothing, truth values
and whole numbers; and a mapping that is made of entries has no two equal keys.
-/
theorem mapping_keeps_entries (context : EncodingContext) (entries : List (Value × Value)) :
    ((∃ text, (mapping entries).encode context = .ok text) ↔
      ∀ entry ∈ entries, entry.1.hasText = true ∧
        ∃ text, entry.2.encode context = .ok text) ∧
    (∀ value text, value.encode context = .ok text → Shows context (.mapping entries) value →
      ∃ tree pairs, Literal.read? text.toList = some (tree, []) ∧
        (Literal.dictionary pairs).Holds tree ∧
        entries.map (fun entry => (entry.1.plainText, entry.2.literal context)) =
          pairs.map (fun pair => (pair.1, .ok pair.2)) ∧
        ((pairs.map (·.1)).Nodup ↔ PrintApart entries) ∧
        (PrintApart entries → ∀ entry ∈ entries, ∀ tree,
          (entry.1.plainText, tree) ∈ pairs ↔ entry.2.literal context = .ok tree)) ∧
    (KeysDiffer entries →
      (∀ entry ∈ entries, entry.1.isText) ∨ (∀ entry ∈ entries, entry.1.isBasic) →
      PrintApart entries) ∧
    ∃ kept, ofEntries entries = .mapping kept ∧ KeysDiffer kept := by
  have encodes (value : Value) : (∃ text, value.encode context = .ok text) ↔
      ∃ tree, value.literal context = .ok tree := by
    simp only [encode_eq_ok_iff]
    exact ⟨fun ⟨_, tree, given, _⟩ => ⟨tree, given⟩, fun ⟨tree, given⟩ => ⟨_, tree, given, rfl⟩⟩
  refine ⟨?_, ?_, ?_, exists_ofEntries entries⟩
  · simp only [encodes]
    exact exists_literal_mapping_iff
  · intro value text encoded shows
    rcases read?_of_encode encoded with ⟨tree, given, reads⟩
    rcases shows.holds given with ⟨piece, has, holds⟩
    rcases literal_mapping_eq_ok_iff.mp has with ⟨_, pairs, rfl, listed⟩
    refine ⟨tree, pairs, ?_, holds, listed, nodup_iff_printApart listed, ?_⟩
    · have alone := reads []
      rw [List.append_nil] at alone
      exact alone
    · intro apart entry member tree
      exact mem_pairs_iff listed apart member
  · rintro differ (texts | basics)
    · exact printApart_of_kind (fun _ _ => same_of_texts) texts differ
    · exact printApart_of_kind (fun _ _ => same_of_basics) basics differ

/-- The entries of a mapping with the keys `1` and `"1"`, which are not equal. -/
def alikeEntries : List (Value × Value) :=
  [(.int 1, .text "a"), (.text "1", .text "b")]

/-- A number and its text are two keys of a mapping, and one key of the dictionary. -/
theorem alikeEntries_share_a_key :
    KeysDiffer alikeEntries ∧ ofEntries alikeEntries = .mapping alikeEntries ∧
      (mapping alikeEntries).encode .standard = .ok "(\"1\": \"a\", \"1\": \"b\")" ∧
      ∀ pairs, (mapping alikeEntries).literal .standard = .ok (.dictionary pairs) →
        ¬ (pairs.map (·.1)).Nodup := by
  have different : same (.int 1) (.text "1") = false := by
    simp only [same]
    rfl
  refine ⟨?_, ?_, rfl, ?_⟩
  · simp [KeysDiffer, alikeEntries, different]
  · simp [ofEntries, alikeEntries, putEntry, different]
  · intro pairs given
    cases given
    decide

end Value

end Typeset
