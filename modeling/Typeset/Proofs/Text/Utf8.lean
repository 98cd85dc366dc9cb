import Typeset.Text.Utf8

/-!
# Reading back the byte form of text

Every character can be read back from the start of its byte form, whatever
follows it. A text is therefore determined by its bytes.
-/

namespace Typeset.Text.Utf8

theorem toNat_byte {value : Nat} (small : value < 256) : (byte value).toNat = value := by
  simp [byte]
  omega

theorem payload?_continuation (code : Nat) : payload? (continuation code) = some (code % 64) := by
  have small : 0x80 + code % 64 < 256 := by omega
  simp only [payload?, continuation, toNat_byte small]
  have difference : 0x80 + code % 64 - 0x80 = code % 64 := by omega
  rw [if_pos (by omega), difference]

theorem scalar?_toNat (char : Char) (least : Nat) (enough : least ≤ char.toNat) :
    scalar? least char.toNat = some char := by
  have valid : char.toNat.isValidChar := char.valid
  simp [scalar?, enough, valid, Char.ofNat_toNat]

theorem toNat_lt (char : Char) : char.toNat < 0x110000 := by
  have valid : char.toNat.isValidChar := char.valid
  simp only [Nat.isValidChar] at valid
  omega

theorem decodeChar?_encodeChar (char : Char) (rest : Bytes) :
    decodeChar? (encodeChar char ++ rest) = some (char, rest) := by
  have bound := toNat_lt char
  simp only [encodeChar]
  split
  · next one =>
    simp only [List.cons_append, List.nil_append, decodeChar?]
    rw [toNat_byte (by omega), if_pos one, Char.ofNat_toNat]
  split
  · next two =>
    simp only [List.cons_append, List.nil_append, decodeChar?]
    rw [toNat_byte (by omega), if_neg (by omega), if_neg (by omega), if_pos (by omega)]
    have code : char.toNat / 64 * 64 + char.toNat % 64 = char.toNat := by omega
    have scalar := scalar?_toNat char 0x80 (by omega)
    simp [payload?_continuation, code, scalar]
  split
  · next three =>
    simp only [List.cons_append, List.nil_append, decodeChar?]
    rw [toNat_byte (by omega), if_neg (by omega), if_neg (by omega), if_neg (by omega),
      if_pos (by omega)]
    have code : (char.toNat / 4096 * 64 + char.toNat / 64 % 64) * 64 +
        char.toNat % 64 = char.toNat := by omega
    have scalar := scalar?_toNat char 0x800 (by omega)
    simp [payload?_continuation, code, scalar]
  · next four =>
    simp only [List.cons_append, List.nil_append, decodeChar?]
    rw [toNat_byte (by omega), if_neg (by omega), if_neg (by omega), if_neg (by omega),
      if_neg (by omega)]
    have code : ((char.toNat / 262144 * 64 + char.toNat / 4096 % 64) * 64 +
        char.toNat / 64 % 64) * 64 + char.toNat % 64 = char.toNat := by omega
    have scalar := scalar?_toNat char 0x10000 (by omega)
    simp [payload?_continuation, code, scalar]

theorem encodeChar_ne_nil (char : Char) : encodeChar char ≠ [] := by
  simp only [encodeChar]
  repeat' split
  all_goals simp

theorem encode_cons (char : Char) (chars : List Char) :
    encode (char :: chars) = encodeChar char ++ encode chars := rfl

theorem encode_append (left right : List Char) :
    encode (left ++ right) = encode left ++ encode right := by
  simp [encode]

theorem take_encode_append (before after : List Char) :
    (encode (before ++ after)).take (length before) = encode before := by
  rw [encode_append, length, List.take_left]

theorem drop_encode_append (before after : List Char) :
    (encode (before ++ after)).drop (length before) = encode after := by
  rw [encode_append, length, List.drop_left]

/-- The bytes of a part of a text. -/
theorem encode_between (before between after : List Char) :
    ((encode (before ++ between ++ after)).take (length (before ++ between))).drop (length before) =
      encode between := by
  rw [take_encode_append, drop_encode_append]

theorem decodeWithin_encode (chars : List Char) {steps : Nat} (enough : chars.length ≤ steps) :
    decodeWithin steps (encode chars) = some chars := by
  induction chars generalizing steps with
  | nil => simp [encode, decodeWithin]
  | cons char chars ih =>
      cases steps with
      | zero => simp at enough
      | succ steps =>
          have shorter : chars.length ≤ steps := by simpa using enough
          simp only [encode_cons]
          have nonempty : encodeChar char ++ encode chars ≠ [] := by
            simp [encodeChar_ne_nil]
          rcases List.exists_cons_of_ne_nil nonempty with ⟨first, rest, shape⟩
          simp only [shape]
          simp only [decodeWithin]
          rw [← shape, decodeChar?_encodeChar]
          simp [ih shorter]

theorem length_le_encode (chars : List Char) : chars.length ≤ (encode chars).length := by
  induction chars with
  | nil => simp
  | cons char chars ih =>
      have one := List.length_pos_iff.mpr (encodeChar_ne_nil char)
      simp only [encode_cons, List.length_append, List.length_cons]
      omega

theorem decode?_encode (chars : List Char) : decode? (encode chars) = some chars :=
  decodeWithin_encode chars (length_le_encode chars)

theorem encode_injective : Function.Injective encode := by
  intro left right equal
  have decoded := congrArg decode? equal
  simpa [decode?_encode] using decoded

/-! ## Bytes that were read -/

theorem toNat_ofNat_of_isValidChar {code : Nat} (valid : code.isValidChar) :
    (Char.ofNat code).toNat = code := by
  rw [Char.ofNat, dif_pos valid]
  rfl

theorem payload?_eq_some {octet : UInt8} {payload : Nat} (read : payload? octet = some payload) :
    octet.toNat = 0x80 + payload ∧ payload < 64 := by
  simp only [payload?] at read
  split at read
  · next inside =>
      have same := Option.some.inj read
      omega
  · cases read

theorem scalar?_eq_some {least code : Nat} {char : Char} (read : scalar? least code = some char) :
    least ≤ code ∧ char.toNat = code := by
  simp only [scalar?] at read
  split at read
  · next valid =>
      cases read
      exact ⟨valid.1, toNat_ofNat_of_isValidChar valid.2⟩
  · cases read

theorem eq_byte {value : Nat} {octet : UInt8} (same : octet.toNat = value) :
    octet = byte value := by
  rw [← same, byte, UInt8.ofNat_toNat]

theorem eq_continuation {code payload : Nat} {octet : UInt8} (read : payload? octet = some payload)
    (low : code % 64 = payload) : octet = continuation code := by
  apply eq_byte
  rw [low]
  exact (payload?_eq_some read).1

/-- What is read from some bytes is the character whose byte form they start with. -/
theorem eq_append_of_decodeChar? {bytes rest : Bytes} {char : Char}
    (read : decodeChar? bytes = some (char, rest)) : bytes = encodeChar char ++ rest := by
  cases bytes with
  | nil => cases read
  | cons first tail =>
    have small := first.toNat_lt
    simp only [decodeChar?] at read
    split at read
    · next one =>
        rcases Prod.mk.inj (Option.some.inj read) with ⟨same, rfl⟩
        have code : char.toNat = first.toNat := by
          rw [← same]
          apply toNat_ofNat_of_isValidChar
          simp only [Nat.isValidChar]
          omega
        rw [encodeChar, if_pos (by omega), ← eq_byte code.symm]
        rfl
    split at read
    · cases read
    split at read
    · next two =>
        split at read
        · next second rest' =>
            simp only [Option.bind_eq_bind, Option.bind_eq_some_iff] at read
            rcases read with ⟨low, readLow, char', scalar, given⟩
            cases given
            rcases scalar?_eq_some scalar with ⟨least, code⟩
            have lowBound := (payload?_eq_some readLow).2
            have isFirst : first = byte (0xC0 + char.toNat / 64) := eq_byte (by omega)
            have isSecond : second = continuation char.toNat :=
              eq_continuation readLow (by omega)
            rw [encodeChar, if_neg (by omega), if_pos (by omega), ← isFirst, ← isSecond]
            rfl
        · cases read
    split at read
    · next three =>
        split at read
        · next second third rest' =>
            simp only [Option.bind_eq_bind, Option.bind_eq_some_iff] at read
            rcases read with ⟨middle, readMiddle, low, readLow, char', scalar, given⟩
            cases given
            rcases scalar?_eq_some scalar with ⟨least, code⟩
            have middleBound := (payload?_eq_some readMiddle).2
            have lowBound := (payload?_eq_some readLow).2
            have isFirst : first = byte (0xE0 + char.toNat / 4096) := eq_byte (by omega)
            have isSecond : second = continuation (char.toNat / 64) :=
              eq_continuation readMiddle (by omega)
            have isThird : third = continuation char.toNat := eq_continuation readLow (by omega)
            rw [encodeChar, if_neg (by omega), if_neg (by omega), if_pos (by omega), ← isFirst,
              ← isSecond, ← isThird]
            rfl
        · cases read
    · next four =>
        split at read
        · next second third fourth rest' =>
            simp only [Option.bind_eq_bind, Option.bind_eq_some_iff] at read
            rcases read with
              ⟨high, readHigh, middle, readMiddle, low, readLow, char', scalar, given⟩
            cases given
            rcases scalar?_eq_some scalar with ⟨least, code⟩
            have highBound := (payload?_eq_some readHigh).2
            have middleBound := (payload?_eq_some readMiddle).2
            have lowBound := (payload?_eq_some readLow).2
            have isFirst : first = byte (0xF0 + char.toNat / 262144) := eq_byte (by omega)
            have isSecond : second = continuation (char.toNat / 4096) :=
              eq_continuation readHigh (by omega)
            have isThird : third = continuation (char.toNat / 64) :=
              eq_continuation readMiddle (by omega)
            have isFourth : fourth = continuation char.toNat :=
              eq_continuation readLow (by omega)
            rw [encodeChar, if_neg (by omega), if_neg (by omega), if_neg (by omega), ← isFirst,
              ← isSecond, ← isThird, ← isFourth]
            rfl
        · cases read

theorem eq_encode_of_decodeWithin {steps : Nat} {bytes : Bytes} {chars : List Char}
    (read : decodeWithin steps bytes = some chars) : bytes = encode chars := by
  induction steps generalizing bytes chars with
  | zero =>
      cases bytes with
      | nil =>
          cases read
          rfl
      | cons first rest => cases read
  | succ steps ih =>
      cases bytes with
      | nil =>
          cases read
          rfl
      | cons first tail =>
          simp only [decodeWithin, Option.bind_eq_bind, Option.bind_eq_some_iff] at read
          rcases read with ⟨⟨char, rest⟩, readFirst, later, readLater, given⟩
          cases given
          rw [eq_append_of_decodeChar? readFirst, encode_cons, ← ih readLater]

theorem decode?_eq_some_iff {bytes : Bytes} {chars : List Char} :
    decode? bytes = some chars ↔ bytes = encode chars := by
  constructor
  · exact eq_encode_of_decodeWithin
  · rintro rfl
    exact decode?_encode chars

/-! ## Boundaries -/

/-- An offset into the byte form of a text at which no character is split. -/
def Boundary (chars : List Char) (offset : Nat) : Prop :=
  ∃ before after, chars = before ++ after ∧ offset = length before

theorem length_append (left right : List Char) :
    length (left ++ right) = length left + length right := by
  simp [length, encode_append]

theorem length_cons (char : Char) (chars : List Char) :
    length (char :: chars) = length [char] + length chars :=
  length_append [char] chars

theorem length_pos {chars : List Char} (nonempty : chars ≠ []) : 0 < length chars := by
  have one := List.length_pos_iff.mpr nonempty
  have many := length_le_encode chars
  simp only [length]
  omega

/-- Two starts of one text that take the same number of bytes are the same, and so is the rest. -/
theorem append_inj {before after front back : List Char} (same : before ++ after = front ++ back)
    (lengths : length before = length front) : before = front ∧ after = back := by
  have bytes := congrArg encode same
  rw [encode_append, encode_append] at bytes
  rcases List.append_inj bytes lengths with ⟨head, tail⟩
  exact ⟨encode_injective head, encode_injective tail⟩

theorem length_take_mono (text : List Char) {few many : Nat} (order : few ≤ many) :
    length (text.take few) ≤ length (text.take many) := by
  rcases (List.take_prefix_take_left order : text.take few <+: text.take many) with ⟨rest, same⟩
  rw [← same, length_append]
  omega

/-- Bytes that begin with the form of a text are read as that text first. -/
theorem exists_append_of_encode_eq {chars before : List Char} {rest : Bytes}
    (same : encode chars = encode before ++ rest) :
    ∃ after, chars = before ++ after ∧ rest = encode after := by
  induction before generalizing chars with
  | nil => exact ⟨chars, rfl, same.symm⟩
  | cons char before ih =>
      cases chars with
      | nil =>
          simp only [encode_cons, List.append_assoc] at same
          exact absurd (List.append_eq_nil_iff.mp same.symm).1 (encodeChar_ne_nil char)
      | cons first chars =>
          have readings := congrArg decodeChar? same
          simp only [encode_cons, List.append_assoc, decodeChar?_encodeChar] at readings
          rcases Prod.mk.inj (Option.some.inj readings) with ⟨rfl, later⟩
          rcases ih later with ⟨after, rfl, ends⟩
          exact ⟨after, rfl, ends⟩

theorem boundary_iff {chars : List Char} {offset : Nat} (inside : offset ≤ length chars) :
    Boundary chars offset ↔ ∃ before, (encode chars).take offset = encode before := by
  constructor
  · rintro ⟨before, after, rfl, rfl⟩
    exact ⟨before, take_encode_append before after⟩
  · rintro ⟨before, read⟩
    have parts := List.take_append_drop offset (encode chars)
    rw [read] at parts
    rcases exists_append_of_encode_eq parts.symm with ⟨after, split, _⟩
    refine ⟨before, after, split, ?_⟩
    rw [length, ← read, List.length_take]
    simp only [length] at inside
    omega

/-- Every byte of a character but the first one continues it, and no reading begins there. -/
theorem decodeChar?_of_continues {char : Char} {front rest after : Bytes} {octet : UInt8}
    (inside : encodeChar char = front ++ octet :: rest) (later : front ≠ []) :
    decodeChar? (octet :: after) = none := by
  have continues : 0x80 ≤ octet.toNat ∧ octet.toNat < 0xC0 := by
    rcases List.exists_cons_of_ne_nil later with ⟨first, others, rfl⟩
    have member : octet ∈ (encodeChar char).tail := by simp [inside]
    simp only [encodeChar, continuation] at member
    have small (code : Nat) : (byte (0x80 + code % 64)).toNat = 0x80 + code % 64 :=
      toNat_byte (by omega)
    repeat' split at member
    all_goals simp only [List.tail_cons, List.mem_cons, List.not_mem_nil, or_false] at member
    · rw [member, small]
      omega
    · rcases member with rfl | rfl <;> rw [small] <;> omega
    · rcases member with rfl | rfl | rfl <;> rw [small] <;> omega
  simp only [decodeChar?]
  rw [if_neg (by omega), if_pos (by omega)]

/-- Bytes that end with the form of a text are read as that text last. -/
theorem exists_append_of_encode_eq_append {chars tail : List Char} {front : Bytes}
    (same : encode chars = front ++ encode tail) :
    ∃ before, chars = before ++ tail ∧ front = encode before := by
  induction chars generalizing front with
  | nil =>
      rcases List.append_eq_nil_iff.mp same.symm with ⟨rfl, empty⟩
      exact ⟨[], encode_injective empty.symm, rfl⟩
  | cons char chars ih =>
      rw [encode_cons] at same
      rcases List.append_eq_append_iff.mp same with ⟨between, rfl, rest⟩ | ⟨between, first, rest⟩
      · rcases ih rest with ⟨before, rfl, rfl⟩
        exact ⟨char :: before, rfl, rfl⟩
      · by_cases empty : front = []
        · rw [empty, List.nil_append] at first
          rw [empty]
          refine ⟨[], ?_, rfl⟩
          apply encode_injective
          rw [List.nil_append, rest, ← first]
          rfl
        · cases between with
          | nil =>
              rcases @ih [] rest.symm with ⟨before, rfl, none_before⟩
              have nothing : before = [] := encode_injective none_before.symm
              rw [List.append_nil] at first
              refine ⟨[char], by rw [nothing]; rfl, ?_⟩
              rw [← first, encode, List.flatMap_singleton]
          | cons octet between =>
              -- the text would begin inside of a character
              have unread : decodeChar? (encode tail) = none := by
                rw [rest]
                exact decodeChar?_of_continues first empty
              cases tail with
              | nil => cases rest
              | cons head tail =>
                  rw [encode_cons, decodeChar?_encodeChar] at unread
                  cases unread

theorem boundary_iff_drop {chars : List Char} {offset : Nat} (inside : offset ≤ length chars) :
    Boundary chars offset ↔ ∃ after, (encode chars).drop offset = encode after := by
  constructor
  · rintro ⟨before, after, rfl, rfl⟩
    exact ⟨after, drop_encode_append before after⟩
  · rintro ⟨after, read⟩
    have parts := List.take_append_drop offset (encode chars)
    rw [read] at parts
    rcases exists_append_of_encode_eq_append parts.symm with ⟨before, split, front⟩
    refine ⟨before, after, split, ?_⟩
    rw [length, ← front, List.length_take]
    simp only [length] at inside
    omega

theorem Boundary.le_length {chars : List Char} {offset : Nat} (boundary : Boundary chars offset) :
    offset ≤ length chars := by
  rcases boundary with ⟨before, after, rfl, rfl⟩
  rw [length_append]
  omega

/-- Of two boundaries the earlier one is a boundary of the text before the later one. -/
theorem Boundary.split {chars : List Char} {early late : Nat} (first : Boundary chars early)
    (second : Boundary chars late) (order : early ≤ late) :
    ∃ before between after, chars = before ++ between ++ after ∧ early = length before ∧
      late = length (before ++ between) := by
  rcases first with ⟨before, rest, rfl, rfl⟩
  rcases second with ⟨front, after, split, rfl⟩
  rcases List.append_eq_append_iff.mp split with ⟨between, rfl, rfl⟩ | ⟨between, rfl, rfl⟩
  · exact ⟨before, between, after, by rw [List.append_assoc], rfl, rfl⟩
  · rw [length_append] at order
    have none_between : between = [] := by
      apply Classical.byContradiction
      intro nonempty
      have := length_pos nonempty
      omega
    subst none_between
    exact ⟨front, [], rest, by simp, by simp, by simp⟩

/-- The bytes from one boundary on are read exactly when they end at another one. -/
theorem decode?_eq_some_iff_boundary {chars : List Char} {start stop : Nat}
    (first : Boundary chars start) (order : start ≤ stop) (inside : stop ≤ length chars) :
    (∃ between, decode? (((encode chars).take stop).drop start) = some between) ↔
      Boundary chars stop := by
  constructor
  · rintro ⟨between, read⟩
    rcases (boundary_iff first.le_length).mp first with ⟨before, head⟩
    refine (boundary_iff inside).mpr ⟨before ++ between, ?_⟩
    have parts := List.take_append_drop start ((encode chars).take stop)
    rw [List.take_take, Nat.min_eq_left order, head, decode?_eq_some_iff.mp read] at parts
    rw [← parts, encode_append]
  · intro second
    rcases first.split second order with ⟨before, between, after, rfl, rfl, rfl⟩
    exact ⟨between, by rw [encode_between, decode?_encode]⟩

/-- A byte below 128 is a character of its own. -/
theorem encodeChar_eq_singleton {char : Char} {octet : UInt8} (member : octet ∈ encodeChar char)
    (small : octet.toNat < 0x80) : encodeChar char = [octet] := by
  have bound := toNat_lt char
  simp only [encodeChar, continuation] at member ⊢
  split at member
  · next one =>
      rw [if_pos one]
      rw [List.mem_singleton.mp member]
  split at member
  · next two =>
      simp only [List.mem_cons, List.not_mem_nil, or_false] at member
      rcases member with rfl | rfl <;> rw [toNat_byte (by omega)] at small <;> omega
  split at member
  · next three =>
      simp only [List.mem_cons, List.not_mem_nil, or_false] at member
      rcases member with rfl | rfl | rfl <;> rw [toNat_byte (by omega)] at small <;> omega
  · next four =>
      simp only [List.mem_cons, List.not_mem_nil, or_false] at member
      rcases member with rfl | rfl | rfl | rfl <;> rw [toNat_byte (by omega)] at small <;> omega

/-- No character is split behind a byte below 128. -/
theorem boundary_of_small {chars : List Char} {left right : Bytes} {octet : UInt8}
    (split : encode chars = left ++ octet :: right) (small : octet.toNat < 0x80) :
    Boundary chars (left.length + 1) := by
  induction chars generalizing left with
  | nil => simp [encode] at split
  | cons char chars ih =>
      rw [encode_cons] at split
      rcases List.append_eq_append_iff.mp split with ⟨between, rfl, rest⟩ | ⟨between, first, rest⟩
      · rcases ih rest with ⟨before, after, rfl, same⟩
        refine ⟨char :: before, after, rfl, ?_⟩
        simp only [List.length_append, length, encode_cons] at same ⊢
        omega
      · cases between with
        | nil =>
            rcases @ih [] rest.symm with ⟨before, after, rfl, same⟩
            refine ⟨char :: before, after, rfl, ?_⟩
            simp only [List.append_nil] at first
            simp only [List.length_nil, length, encode_cons, List.length_append, first] at same ⊢
            omega
        | cons head between =>
            have same := (List.cons.inj rest).1
            have member : octet ∈ encodeChar char := by simp [first, same]
            have alone := encodeChar_eq_singleton member small
            refine ⟨[char], chars, rfl, ?_⟩
            rw [first] at alone
            have single := congrArg List.length alone
            simp only [List.length_append, List.length_cons, List.length_nil] at single
            rw [length, encode_cons, first, encode, List.flatMap_nil, List.append_nil,
              List.length_append, List.length_cons]
            omega

end Typeset.Text.Utf8
