import Typeset.Proofs.Literal.Reader
import Typeset.Proofs.Number.Digits
import Typeset.Proofs.Text.Lines

/-!
# Literals read back

Every literal that a document's code can hold is read back from its text, whatever
stands behind it: one lemma for each reader, and an induction over the literal.
-/

namespace Typeset

namespace Literal

namespace Reader

variable {α β : Type}

/-- A reader takes a written item, whatever stands behind it. -/
def Reads (read : Reader α) (written : List Char) (item : α) : Prop :=
  ∀ rest, read (written ++ rest) = some (item, rest)

/-- A reader takes a written item in front of a comma or a closing parenthesis. -/
def ReadsListed (read : Reader α) (written : List Char) (item : α) : Prop :=
  ∀ mark rest, mark = ',' ∨ mark = ')' → read (written ++ mark :: rest) = some (item, mark :: rest)

theorem made_eq {read : Reader α} {make : α → Option β} {chars rest : List Char} {item : α}
    {product : β} (taken : read chars = some (item, rest)) (given : make item = some product) :
    made make read chars = some (product, rest) := by
  simp only [made, taken, Option.bind_eq_bind, Option.bind_some, given]
  rfl

theorem named_eq {name : Reader α} {item : Reader β} {chars inner rest : List Char} {label : α}
    {value : β} (first : name chars = some (label, ':' :: ' ' :: inner))
    (second : item inner = some (value, rest)) :
    named name item chars = some ((label, value), rest) := by
  have colon : Text.after? [':', ' '] (':' :: ' ' :: inner) = some inner :=
    Text.after?_append [':', ' '] inner
  simp only [named, first, Option.bind_eq_bind, Option.bind_some, colon, second]
  rfl

theorem run_eq {holds : Char → Bool} {chars : List Char} (each : ∀ char ∈ chars, holds char)
    {mark : Char} (stops : holds mark = false) (rest : List Char) :
    run holds (chars ++ mark :: rest) = some (chars, mark :: rest) := by
  rw [run, List.takeWhile_append_of_pos each, List.dropWhile_append_of_pos each]
  simp only [List.takeWhile_cons, List.dropWhile_cons, stops, Bool.false_eq_true, if_false,
    List.append_nil]

section Parts

variable {read : Reader α} {written : List Char} {item : α}

theorem Reads.listed (reads : Reads read written item) : ReadsListed read written item :=
  fun mark rest _ => reads (mark :: rest)

theorem Reads.behind (reads : Reads read written item) (start : List Char) :
    Reads (behind start read) (start ++ written) item := by
  intro rest
  rw [Reader.behind, List.append_assoc, Text.after?_append]
  exact reads rest

theorem ReadsListed.closed (reads : ReadsListed read written item) :
    Reads (closed read) (written ++ [')']) item := by
  intro rest
  rw [Reader.closed, List.append_assoc, List.singleton_append, reads ')' rest (.inr rfl)]
  rfl

theorem Reads.made {make : α → Option β} {product : β} (reads : Reads read written item)
    (given : make item = some product) : Reads (made make read) written product :=
  fun rest => made_eq (reads rest) given

theorem ReadsListed.made {make : α → Option β} {product : β}
    (reads : ReadsListed read written item) (given : make item = some product) :
    ReadsListed (made make read) written product :=
  fun mark rest marks => made_eq (reads mark rest marks) given

/-- A reader that takes an item is not deterred by readers before it that refuse the text. -/
theorem Reads.firstOf (before : List (Reader α)) {after : List (Reader α)}
    (reads : Reads read written item)
    (refuse : ∀ rest, firstOf before (written ++ rest) = none) :
    Reads (firstOf (before ++ read :: after)) written item := by
  intro rest
  have refused := refuse rest
  unfold Reader.firstOf at refused ⊢
  rw [List.findSome?_append, refused, Option.none_or, List.findSome?_cons, reads rest]

/-- A text that is read does not start where its reader refuses to. -/
theorem after?_eq_none_of_refuses {mark : Char} (refuses : ∀ rest, read (mark :: rest) = none)
    {chars rest : List Char} (taken : read chars = some (item, rest)) (start : List Char) :
    Text.after? (mark :: start) chars = none := by
  cases found : Text.after? (mark :: start) chars with
  | none => rfl
  | some behind =>
      have shape := Text.after?_eq_some_iff.mp found
      rw [shape, List.cons_append, refuses] at taken
      cases taken

end Parts

/-! ## Scalars -/

theorem reads_word (spelling : String) (meaning : α) :
    Reads (word spelling meaning) spelling.toList meaning := by
  intro rest
  rw [word, Reader.behind, Text.after?_append]
  rfl

theorem reads_quoted (text : String) : Reads quoted (Text.Escaped.inQuotes text) text := by
  have inside :
      Reads Text.Escaped.decode? (Text.Escaped.encode text.toList ++ ['"']) text.toList := by
    intro rest
    rw [List.append_assoc]
    exact Text.Escaped.decode?_encode text.toList rest
  have given : (some ∘ String.ofList) text.toList = some text :=
    congrArg some String.ofList_toList
  exact (inside.made given).behind ['"']

theorem readsListed_natural (value : Nat) : ReadsListed natural (Number.digits value) value := by
  intro mark rest marks
  have stops : mark.isDigit = false := by
    rcases marks with rfl | rfl <;> rfl
  apply made_eq (run_eq (fun _ => Number.isDigit_of_mem_digits) stops rest)
  rw [if_neg (Number.digits_ne_nil value), Number.ofDigitChars_digits]

theorem readsListed_byte (value : UInt8) :
    ReadsListed byte (Number.digits value.toNat) value := by
  apply (readsListed_natural value.toNat).made
  rw [if_pos value.toNat_lt, UInt8.ofNat_toNat]

theorem after?_minus_digits (value : Nat) (rest : List Char) :
    Text.after? ['-'] (Number.digits value ++ rest) = none := by
  rcases List.exists_cons_of_ne_nil (Number.digits_ne_nil value) with ⟨first, digits, shown⟩
  have member : first ∈ Number.digits value := by
    rw [shown]
    exact List.mem_cons_self
  have different : '-' ≠ first := by
    rintro rfl
    exact absurd (Number.isDigit_of_mem_digits member) (by decide)
  rw [shown, List.cons_append, Text.after?, if_neg different]

theorem readsListed_integer (value : Int) : ReadsListed integer (Literal.intText value) value := by
  intro mark rest marks
  cases value with
  | ofNat size =>
      rw [Literal.intText, Number.toList_toString_ofNat, integer, after?_minus_digits]
      exact made_eq (readsListed_natural size mark rest marks) rfl
  | negSucc size =>
      have unsigned := Text.after?_append ['-'] (Number.digits (size + 1) ++ mark :: rest)
      rw [Literal.intText, Number.toList_toString_negSucc, integer]
      simp only [List.cons_append, List.nil_append] at unsigned ⊢
      rw [unsigned]
      exact made_eq (readsListed_natural (size + 1) mark rest marks) rfl

theorem readsListed_numeral {text : String} (plain : Number.Plain text.toList) :
    ReadsListed numeral text.toList text := by
  intro mark rest marks
  have stops : Number.isOfNumber mark = false := by
    rcases marks with rfl | rfl <;> rfl
  exact made_eq (run_eq plain stops rest) (congrArg some String.ofList_toList)

theorem readsListed_part {name : String} (plain : name.toList.all Char.isAlpha) (value : Int) :
    ReadsListed part (Literal.part name value) (name, value) := by
  intro mark rest marks
  rw [Literal.part, List.append_assoc]
  apply named_eq _ (readsListed_integer value mark rest marks)
  exact made_eq (run_eq (List.all_eq_true.mp plain) rfl _) (congrArg some String.ofList_toList)

/-! ## Lists -/

section Lists

variable {read : Reader α} {write : α → List Char}

/-- The items behind a first one, as they are written. -/
def writtenOthers (write : α → List Char) (items : List α) : List Char :=
  items.flatMap fun item => ',' :: ' ' :: write item

theorem commaSeparated_cons (write : α → List Char) (first : α) (items : List α) :
    Literal.commaSeparated ((first :: items).map write) =
      write first ++ writtenOthers write items := by
  induction items generalizing first with
  | nil => simp [Literal.commaSeparated, writtenOthers]
  | cons second items ih =>
      have later := ih second
      simp only [List.map_cons] at later ⊢
      rw [Literal.commaSeparated, later]
      · simp [writtenOthers]
      · simp

theorem length_le_writtenOthers (write : α → List Char) (items : List α) :
    items.length ≤ (writtenOthers write items).length := by
  induction items with
  | nil => exact Nat.zero_le _
  | cons first items ih =>
      simp only [writtenOthers, List.flatMap_cons, List.length_append, List.length_cons] at ih ⊢
      omega

/-- What follows an item in a list is a comma or the closing parenthesis. -/
theorem writtenOthers_append (write : α → List Char) (items : List α) (rest : List Char) :
    ∃ mark tail, (mark = ',' ∨ mark = ')') ∧
      writtenOthers write items ++ ')' :: rest = mark :: tail := by
  cases items with
  | nil => exact ⟨')', rest, .inr rfl, rfl⟩
  | cons first items => exact ⟨',', _, .inl rfl, rfl⟩

theorem others_eq {items : List α} (each : ∀ item ∈ items, ReadsListed read (write item) item)
    {most : Nat} (enough : items.length < most) (rest : List Char) :
    others read most (writtenOthers write items ++ ')' :: rest) = some (items, rest) := by
  induction items generalizing most with
  | nil =>
      cases most with
      | zero => cases enough
      | succ most => rfl
  | cons first items ih =>
      cases most with
      | zero => cases enough
      | succ most =>
          have each_first := each first List.mem_cons_self
          have each_later : ∀ item ∈ items, ReadsListed read (write item) item :=
            fun item member => each item (List.mem_cons_of_mem first member)
          rcases writtenOthers_append write items rest with ⟨mark, tail, marks, shown⟩
          have later := ih each_later (Nat.lt_of_succ_lt_succ enough)
          have whole : writtenOthers write (first :: items) ++ ')' :: rest =
              ',' :: ' ' :: (write first ++ mark :: tail) := by
            simp [writtenOthers, ← shown]
          rw [shown] at later
          rw [whole]
          simp only [others, Text.after?, Char.reduceEq, if_false, if_true, Option.bind_eq_bind,
            Option.bind_some, each_first mark tail marks, later]
          rfl

theorem listedFrom_eq (first : α) {items : List α}
    (each : ∀ item ∈ items, ReadsListed read (write item) item) (rest : List Char) :
    listedFrom read first (writtenOthers write items ++ ')' :: rest) =
      some (first :: items, rest) := by
  have enough : items.length < (writtenOthers write items ++ ')' :: rest).length := by
    have bound := length_le_writtenOthers write items
    simp only [List.length_append, List.length_cons]
    omega
  simp only [listedFrom, others_eq each enough rest, Option.bind_eq_bind, Option.bind_some]
  rfl

theorem reads_listed {first : α} {items : List α}
    (each : ∀ item ∈ first :: items, ReadsListed read (write item) item) :
    Reads (listed read) (Literal.commaSeparated ((first :: items).map write) ++ [')'])
      (first :: items) := by
  intro rest
  rcases writtenOthers_append write items rest with ⟨mark, tail, marks, shown⟩
  have later := listedFrom_eq first (fun item member =>
    each item (List.mem_cons_of_mem first member)) rest
  rw [commaSeparated_cons, List.append_assoc, List.append_assoc, List.singleton_append]
  rw [shown] at later ⊢
  simp only [listed, each first List.mem_cons_self mark tail marks, Option.bind_eq_bind,
    Option.bind_some, later]

/-- What follows the first item of an array, as it is written. -/
def writtenArrayFrom (write : α → List Char) : List α → List Char
  | [] => [',', ')']
  | second :: items => writtenOthers write (second :: items) ++ [')']

theorem arrayText_cons (first : α) (items : List α) :
    Literal.arrayText ((first :: items).map write) =
      '(' :: (write first ++ writtenArrayFrom write items) := by
  cases items with
  | nil => rfl
  | cons second items =>
      have shown := commaSeparated_cons write first (second :: items)
      simp only [List.map_cons] at shown ⊢
      simp [Literal.arrayText, writtenArrayFrom, shown]

theorem writtenArrayFrom_append (write : α → List Char) (items : List α) (rest : List Char) :
    ∃ mark tail, (mark = ',' ∨ mark = ')') ∧
      writtenArrayFrom write items ++ rest = mark :: tail := by
  cases items with
  | nil => exact ⟨',', _, .inl rfl, rfl⟩
  | cons second items => exact ⟨',', _, .inl rfl, rfl⟩

theorem arrayFrom_eq (first : α) {items : List α}
    (each : ∀ item ∈ items, ReadsListed read (write item) item) (rest : List Char) :
    arrayFrom read first (writtenArrayFrom write items ++ rest) = some (first :: items, rest) := by
  cases items with
  | nil => rfl
  | cons second items =>
      have later := listedFrom_eq first each rest
      rw [writtenArrayFrom, List.append_assoc, List.singleton_append]
      exact later

theorem reads_array {items : List α} (each : ∀ item ∈ items, ReadsListed read (write item) item)
    (refuses : ∀ rest, read (')' :: rest) = none) :
    Reads (behind ['('] (array read)) (Literal.arrayText (items.map write)) items := by
  intro rest
  cases items with
  | nil => rfl
  | cons first items =>
      rcases writtenArrayFrom_append write items rest with ⟨mark, tail, marks, shown⟩
      have taken := each first List.mem_cons_self mark tail marks
      have later := arrayFrom_eq first (fun item member =>
        each item (List.mem_cons_of_mem first member)) rest
      have opened := Text.after?_append ['('] (write first ++ mark :: tail)
      rw [shown] at later
      rw [behind, arrayText_cons, List.cons_append, List.append_assoc, shown]
      simp only [List.cons_append, List.nil_append] at opened
      simp only [opened, Option.bind_some, array, after?_eq_none_of_refuses refuses taken,
        taken, Option.bind_eq_bind, later]

end Lists

/-! ## Calls -/

theorem reads_call {read : Reader α} {written : List Char} {item : α}
    (reads : ReadsListed read written item) (name : String) :
    Reads (call name (closed read)) (Literal.call name written) item := by
  have whole := reads.closed.behind (name.toList ++ ['('])
  simpa only [Literal.call, Reader.call, List.append_assoc, List.nil_append,
    List.cons_append] using whole

theorem reads_call_listed {parts : List (String × Int)} (some_part : parts ≠ [])
    (plain : parts.all fun part => part.1.toList.all Char.isAlpha) (name : String) :
    Reads (call name (listed part))
      (Literal.call name
        (Literal.commaSeparated (parts.map fun part => Literal.part part.1 part.2)))
      parts := by
  cases parts with
  | nil => exact absurd rfl some_part
  | cons first parts =>
      have each : ∀ entry ∈ first :: parts, ReadsListed part (Literal.part entry.1 entry.2) entry :=
        fun entry member => readsListed_part (List.all_eq_true.mp plain entry member) entry.2
      have whole := (reads_listed each).behind (name.toList ++ ['('])
      simpa only [Literal.call, Reader.call, List.append_assoc, List.nil_append,
        List.cons_append] using whole

end Reader

/-- A literal whose numbers are written with characters of numbers. -/
inductive Readable : Literal → Prop
  | nothing : Readable .nothing
  | bool (value : Bool) : Readable (.bool value)
  | int (value : Int) : Readable (.int value)
  | floatNaN : Readable .floatNaN
  | floatInfinity (negative : Bool) : Readable (.floatInfinity negative)
  | float {text : String} (plain : Number.Plain text.toList) : Readable (.float text)
  | decimal {text : String} (plain : Number.Plain text.toList) : Readable (.decimal text)
  | bytes (content : Bytes) : Readable (.bytes content)
  | text (value : String) : Readable (.text value)
  | array {items : List Literal} (each : ∀ item ∈ items, Readable item) : Readable (.array items)
  | dictionary {entries : List (String × Literal)} (each : ∀ entry ∈ entries, Readable entry.2) :
      Readable (.dictionary entries)
  | date (year month day : Int) : Readable (.date year month day)
  | time (hour minute second : Int) : Readable (.time hour minute second)
  | moment (year month day hour minute second : Int) :
      Readable (.moment year month day hour minute second)

open Reader

theorem ne_of_isOfNumber {char mark : Char} (plain : Number.isOfNumber char)
    (refused : Number.isOfNumber mark = false) : char ≠ mark := by
  rintro rfl
  rw [plain] at refused
  cases refused

theorem encode_of_plain {chars : List Char} (plain : Number.Plain chars) :
    Text.Escaped.encode chars = chars := by
  induction chars with
  | nil => rfl
  | cons char chars ih =>
      rcases Number.plain_cons.mp plain with ⟨first, later⟩
      rw [Text.Escaped.encode_cons, ih later, Text.Escaped.encodeChar,
        if_neg (ne_of_isOfNumber first rfl), if_neg (ne_of_isOfNumber first rfl),
        if_neg (ne_of_isOfNumber first rfl), if_neg (ne_of_isOfNumber first rfl),
        if_neg (ne_of_isOfNumber first rfl), List.singleton_append]

/-- The text of a number needs no escapes between quotes. -/
theorem inQuotes_of_plain {text : String} (plain : Number.Plain text.toList) :
    Text.Escaped.inQuotes text = '"' :: text.toList ++ ['"'] := by
  rw [Text.Escaped.inQuotes, encode_of_plain plain]

theorem reads_float {text : String} (plain : Number.Plain text.toList) :
    Reads scalar (chars (.float text)) (.float text) := by
  have reads : Reads (made (some ∘ Literal.float) (Reader.call "float" (closed numeral)))
      (chars (.float text)) (.float text) :=
    (reads_call (readsListed_numeral plain) "float").made rfl
  exact reads.firstOf [_, _, _, _, _, _, _] fun _ => rfl

theorem reads_decimal {text : String} (plain : Number.Plain text.toList) :
    Reads scalar (chars (.decimal text)) (.decimal text) := by
  have given : ofNumeral? text = some (.decimal text) := if_pos plain
  have reads := ((reads_call (reads_quoted text).listed "decimal").made given)
  rw [inQuotes_of_plain plain] at reads
  exact reads.firstOf [_, _, _, _, _, _, _, _] fun _ => rfl

theorem reads_bytes (content : Bytes) : Reads scalar (chars (.bytes content)) (.bytes content) := by
  have items : Reads (behind ['('] (Reader.array byte))
      (arrayText (content.map fun byte => Number.digits byte.toNat)) content :=
    reads_array (fun byte _ => readsListed_byte byte) fun _ => rfl
  have reads : Reads (made (some ∘ Literal.bytes)
      (Reader.call "bytes" (closed (behind ['('] (Reader.array byte)))))
      (chars (.bytes content)) (.bytes content) :=
    (reads_call items.listed "bytes").made rfl
  exact reads.firstOf [_, _, _, _, _, _, _, _, _] fun _ => rfl

theorem reads_parts {literal : Literal} (parts : List (String × Int))
    (shown : literal.chars = Literal.call "datetime"
      (commaSeparated (parts.map fun part => Literal.part part.1 part.2)))
    (plain : parts.all fun part => part.1.toList.all Char.isAlpha)
    (made : ofParts? parts = some literal) : Reads scalar literal.chars literal := by
  have some_part : parts ≠ [] := by
    rintro rfl
    cases made
  have reads := (reads_call_listed some_part plain "datetime").made made
  rw [shown]
  exact reads.firstOf [_, _, _, _, _, _, _, _, _, _] fun _ => rfl

/-! ## Groups -/

theorem allChars_eq_map (items : List Literal) : allChars items = items.map chars := by
  induction items with
  | nil => rfl
  | cons item items ih => rw [allChars, ih, List.map_cons]

theorem chars_array (items : List Literal) :
    (Literal.array items).chars = arrayText (items.map chars) := by
  rw [← allChars_eq_map]
  rfl

/-- An entry of a dictionary as a document's code writes it. -/
def entryText (entry : String × Literal) : List Char :=
  Text.Escaped.inQuotes entry.1 ++ ':' :: ' ' :: entry.2.chars

theorem entryChars_eq_map (entries : List (String × Literal)) :
    entryChars entries = entries.map entryText := by
  induction entries with
  | nil => rfl
  | cons entry entries ih => rw [entryChars, ih, List.map_cons, entryText]

theorem chars_dictionary (entries : List (String × Literal)) :
    (Literal.dictionary entries).chars = dictionaryText (entries.map entryText) := by
  rw [← entryChars_eq_map]
  rfl

theorem length_le_commaSeparated {written : List Char} {texts : List (List Char)}
    (member : written ∈ texts) : written.length ≤ (commaSeparated texts).length := by
  fun_induction commaSeparated texts with
  | case1 => cases member
  | case2 item => exact Nat.le_of_eq (congrArg List.length (List.mem_singleton.mp member))
  | case3 item items _ ih =>
      rw [List.length_append]
      rcases List.mem_cons.mp member with rfl | later
      · exact Nat.le_add_right _ _
      · have bound := ih later
        simp only [List.length_cons]
        omega

theorem arrayText_eq (texts : List (List Char)) : ∃ inner, arrayText texts = '(' :: inner := by
  fun_cases arrayText texts <;> exact ⟨_, rfl⟩

theorem dictionaryText_eq (texts : List (List Char)) :
    ∃ inner, dictionaryText texts = '(' :: inner := by
  fun_cases dictionaryText texts <;> exact ⟨_, rfl⟩

theorem length_lt_arrayText {written : List Char} {texts : List (List Char)}
    (member : written ∈ texts) : written.length < (arrayText texts).length := by
  have bound := length_le_commaSeparated member
  fun_cases arrayText texts with
  | case1 => cases member
  | case2 item =>
      rw [List.mem_singleton.mp member]
      simp only [List.cons_append, List.length_cons, List.length_append]
      omega
  | case3 texts _ _ =>
      simp only [List.cons_append, List.length_cons, List.length_append]
      omega

theorem length_lt_dictionaryText {written : List Char} {texts : List (List Char)}
    (member : written ∈ texts) : written.length < (dictionaryText texts).length := by
  have bound := length_le_commaSeparated member
  fun_cases dictionaryText texts with
  | case1 => cases member
  | case2 texts _ =>
      simp only [List.cons_append, List.length_cons, List.length_append]
      omega

section Groups

variable {item : Reader Literal}

theorem group_array {items : List Literal}
    (each : ∀ literal ∈ items, Reads item literal.chars literal)
    (not_closing : ∀ rest, item (')' :: rest) = none)
    (not_colon : ∀ rest, item (':' :: rest) = none) :
    Reads (behind ['('] (group item)) (arrayText (items.map chars)) (.array items) := by
  intro rest
  cases items with
  | nil => rfl
  | cons first items =>
      rcases writtenArrayFrom_append chars items rest with ⟨mark, tail, marks, shown⟩
      have taken := each first List.mem_cons_self (mark :: tail)
      have later := arrayFrom_eq first (fun literal member =>
        (each literal (List.mem_cons_of_mem first member)).listed) rest
      have opened := Text.after?_append ['('] (first.chars ++ mark :: tail)
      have no_colon : Text.after? [':', ' '] (mark :: tail) = none := by
        rcases marks with rfl | rfl <;> rfl
      rw [shown] at later
      rw [behind, arrayText_cons, List.cons_append, List.append_assoc, shown]
      simp only [List.cons_append, List.nil_append] at opened
      simp only [opened, Option.bind_some, group, after?_eq_none_of_refuses not_closing taken,
        after?_eq_none_of_refuses not_colon taken, taken, Option.bind_eq_bind, no_colon]
      exact made_eq later rfl

theorem readsListed_entry {entry : String × Literal}
    (reads : Reads item entry.2.chars entry.2) :
    ReadsListed (named quoted item) (entryText entry) entry := by
  intro mark rest _
  rw [entryText, List.append_assoc]
  exact named_eq (reads_quoted entry.1 _) (reads (mark :: rest))

theorem dictionaryText_cons (first : String × Literal) (entries : List (String × Literal)) :
    dictionaryText ((first :: entries).map entryText) =
      '(' :: (entryText first ++ (writtenOthers entryText entries ++ [')'])) := by
  have shown := commaSeparated_cons entryText first entries
  rw [List.map_cons] at shown ⊢
  rw [dictionaryText, shown]
  · simp
  · simp

theorem group_dictionary {entries : List (String × Literal)}
    (keys : ∀ key, Reads item (Text.Escaped.inQuotes key) (.text key))
    (each : ∀ entry ∈ entries, Reads item entry.2.chars entry.2)
    (not_closing : ∀ rest, item (')' :: rest) = none)
    (not_colon : ∀ rest, item (':' :: rest) = none) :
    Reads (behind ['('] (group item)) (dictionaryText (entries.map entryText))
      (.dictionary entries) := by
  intro rest
  cases entries with
  | nil => rfl
  | cons first entries =>
      rcases first with ⟨key, value⟩
      have later := listedFrom_eq (key, value) (fun entry member =>
        readsListed_entry (each entry (List.mem_cons_of_mem (key, value) member))) rest
      have value_taken := each (key, value) List.mem_cons_self
        (writtenOthers entryText entries ++ ')' :: rest)
      have key_taken := keys key
        (':' :: ' ' :: (value.chars ++ (writtenOthers entryText entries ++ ')' :: rest)))
      have opened := Text.after?_append ['('] (Text.Escaped.inQuotes key ++
        ':' :: ' ' :: (value.chars ++ (writtenOthers entryText entries ++ ')' :: rest)))
      have colon := Text.after?_append [':', ' ']
        (value.chars ++ (writtenOthers entryText entries ++ ')' :: rest))
      rw [behind, dictionaryText_cons, entryText]
      simp only [List.cons_append, List.nil_append, List.append_assoc] at opened colon ⊢
      simp only [opened, Option.bind_some, group, after?_eq_none_of_refuses not_closing key_taken,
        after?_eq_none_of_refuses not_colon key_taken, key_taken, Option.bind_eq_bind, colon,
        value_taken]
      exact made_eq later rfl

end Groups

theorem literal_refuses_closing (depth : Nat) (rest : List Char) :
    Reader.literal depth (')' :: rest) = none := by
  cases depth <;> rfl

theorem literal_refuses_colon (depth : Nat) (rest : List Char) :
    Reader.literal depth (':' :: rest) = none := by
  cases depth <;> rfl

theorem reads_of_scalar {literal : Literal} {written : List Char}
    (reads : Reads scalar written literal) (depth : Nat) :
    Reads (Reader.literal (depth + 1)) written literal := by
  intro rest
  have unopened : Text.after? ['('] (written ++ rest) = none :=
    after?_eq_none_of_refuses (fun _ => rfl) (reads rest) []
  rw [Reader.literal, unopened]
  exact reads rest

theorem reads_of_group {literal : Literal} {written inner : List Char} {depth : Nat}
    (opens : written = '(' :: inner)
    (reads : Reads (behind ['('] (group (Reader.literal depth))) written literal) :
    Reads (Reader.literal (depth + 1)) written literal := by
  intro rest
  subst opens
  have opened := Text.after?_append ['('] (inner ++ rest)
  have inside := reads rest
  rw [behind] at inside
  rw [Reader.literal]
  simp only [List.cons_append, List.nil_append] at opened inside ⊢
  simp only [opened, Option.bind_some] at inside ⊢
  exact inside

theorem reads_text (value : String) : Reads scalar (chars (.text value)) (.text value) := by
  have reads : Reads (made (some ∘ Literal.text) quoted) (chars (.text value)) (.text value) :=
    (reads_quoted value).made rfl
  exact reads.firstOf [_, _, _, _, _, _, _, _, _, _, _] fun _ => rfl

theorem reads_int (value : Int) : Reads scalar (chars (.int value)) (.int value) := by
  have reads : Reads (made (some ∘ Literal.int) (Reader.call "int" (closed integer)))
      (chars (.int value)) (.int value) :=
    (reads_call (readsListed_integer value) "int").made rfl
  exact reads.firstOf [_, _, _, _, _, _] fun _ => rfl

/-- A word that no reader before it takes stands for its literal. -/
theorem reads_spelled (before : List (Reader Literal)) {after : List (Reader Literal)}
    {spelling : String} {literal : Literal} (readers : scalar =
      firstOf (before ++ word spelling literal :: after))
    (refuse : ∀ rest, firstOf before (spelling.toList ++ rest) = none) (depth : Nat) :
    Reads (Reader.literal (depth + 1)) spelling.toList literal :=
  reads_of_scalar (readers ▸ (reads_word spelling literal).firstOf before refuse) depth

/-- A reader that goes deep enough for the elements of an array goes deep enough for it. -/
theorem reads_array_of_elements {items : List Literal} {depth : Nat}
    (each : ∀ item ∈ items, ∀ {depth : Nat}, item.chars.length ≤ depth →
      Reads (Reader.literal (depth + 1)) item.chars item)
    (enough : (arrayText (items.map chars)).length ≤ depth) :
    Reads (Reader.literal (depth + 1)) (arrayText (items.map chars)) (.array items) := by
  have each_read : ∀ item ∈ items, Reads (Reader.literal depth) item.chars item := by
    intro item member
    have shorter := length_lt_arrayText (List.mem_map_of_mem (f := chars) member)
    cases depth with
    | zero => omega
    | succ below => exact each item member (by omega)
  rcases arrayText_eq (items.map chars) with ⟨inner, opens⟩
  exact reads_of_group opens
    (group_array each_read (literal_refuses_closing depth) (literal_refuses_colon depth))

/-- A reader that goes deep enough for the values of a dictionary goes deep enough for it. -/
theorem reads_dictionary_of_values {entries : List (String × Literal)} {depth : Nat}
    (each : ∀ entry ∈ entries, ∀ {depth : Nat}, entry.2.chars.length ≤ depth →
      Reads (Reader.literal (depth + 1)) entry.2.chars entry.2)
    (enough : (dictionaryText (entries.map entryText)).length ≤ depth) :
    Reads (Reader.literal (depth + 1)) (dictionaryText (entries.map entryText))
      (.dictionary entries) := by
  rcases dictionaryText_eq (entries.map entryText) with ⟨inner, opens⟩
  cases depth with
  | zero =>
      rw [opens] at enough
      cases enough
  | succ below =>
      have each_read : ∀ entry ∈ entries,
          Reads (Reader.literal (below + 1)) entry.2.chars entry.2 := by
        intro entry member
        have shorter := length_lt_dictionaryText (List.mem_map_of_mem (f := entryText) member)
        have inside : entry.2.chars.length ≤ (entryText entry).length := by
          simp only [entryText, List.length_append, List.length_cons]
          omega
        exact each entry member (by omega)
      exact reads_of_group opens
        (group_dictionary (fun key => reads_of_scalar (reads_text key) below) each_read
          (literal_refuses_closing (below + 1)) (literal_refuses_colon (below + 1)))

theorem Readable.reads {literal : Literal} (readable : literal.Readable) {depth : Nat}
    (enough : literal.chars.length ≤ depth) :
    Reads (Reader.literal (depth + 1)) literal.chars literal := by
  induction readable generalizing depth with
  | nothing => exact reads_spelled [] rfl (fun _ => rfl) depth
  | bool value =>
      cases value with
      | true => exact reads_spelled [_] rfl (fun _ => rfl) depth
      | false => exact reads_spelled [_, _] rfl (fun _ => rfl) depth
  | int value => exact reads_of_scalar (reads_int value) depth
  | floatNaN => exact reads_spelled [_, _, _] rfl (fun _ => rfl) depth
  | floatInfinity negative =>
      cases negative with
      | false => exact reads_spelled [_, _, _, _] rfl (fun _ => rfl) depth
      | true => exact reads_spelled [_, _, _, _, _] rfl (fun _ => rfl) depth
  | float plain => exact reads_of_scalar (reads_float plain) depth
  | decimal plain => exact reads_of_scalar (reads_decimal plain) depth
  | bytes content => exact reads_of_scalar (reads_bytes content) depth
  | text value => exact reads_of_scalar (reads_text value) depth
  | array each ih =>
      rw [chars_array] at enough ⊢
      exact reads_array_of_elements ih enough
  | dictionary each ih =>
      rw [chars_dictionary] at enough ⊢
      exact reads_dictionary_of_values ih enough
  | date year month day =>
      exact reads_of_scalar
        (reads_parts [("year", year), ("month", month), ("day", day)] rfl (by simp) rfl) depth
  | time hour minute second =>
      exact reads_of_scalar
        (reads_parts [("hour", hour), ("minute", minute), ("second", second)]
          rfl (by simp) rfl) depth
  | moment year month day hour minute second =>
      exact reads_of_scalar
        (reads_parts [("year", year), ("month", month), ("day", day),
          ("hour", hour), ("minute", minute), ("second", second)] rfl (by simp) rfl) depth

theorem Readable.read? {literal : Literal} (readable : literal.Readable) (rest : List Char) :
    Literal.read? (literal.chars ++ rest) = some (literal, rest) := by
  apply readable.reads
  rw [List.length_append]
  exact Nat.le_add_right _ _

end Literal

end Typeset
