import Typeset.Proofs.Number.Digits
import Typeset.Proofs.PageSelector
import Typeset.Proofs.Text.Blank
import Mathlib.Data.List.Forall2

/-!
# The grammar of page selectors

A selector is cut at its commas, and what is left of each part without the blanks at its ends
is a token. A token names a page by a number, or a range of pages by two numbers around its
first dash. Numbers are ASCII digits with blanks around them.

Reading a selector follows this grammar. It gives the ranges that the tokens name, or else
reports the first token that names none, and it reads back every list of ranges that is
written out, however many blanks and leading zeros are written with it.
-/

namespace Typeset.PageSelector

open Text (AllBlank Trims isBlank)

/-! ## Numbers -/

/-- A text is a number: some ASCII digits, not too many of them, with blanks around. -/
inductive Spells : List Char → Nat → Prop
  | digits {before digits after : List Char} (first : AllBlank before) (second : AllBlank after)
      (some_digit : digits ≠ []) (ascii : ∀ digit ∈ digits, digit.isDigit)
      (few : digits.length ≤ 4300) :
      Spells (before ++ digits ++ after) (Nat.ofDigitChars 10 digits 0)

/-- A number as it may be written: its digits, with zeros before them and blanks around. -/
inductive Writes (number : Nat) : List Char → Prop
  | padded {before after : List Char} (zeros : Nat) (first : AllBlank before)
      (second : AllBlank after) (few : zeros + (toString number).length ≤ 4300) :
      Writes number (before ++ (List.replicate zeros '0' ++ (toString number).toList) ++ after)

theorem isBlank_of_isDigit {char : Char} (digit : char.isDigit) : isBlank char = false := by
  rw [Char.isDigit_iff_toNat] at digit
  have codes : 48 ≤ char.toNat ∧ char.toNat ≤ 57 := digit
  simp only [isBlank, Text.inRanges, Text.blankRanges, List.any_cons, List.any_nil,
    Bool.or_eq_false_iff, Bool.and_eq_false_iff, decide_eq_false_iff_not, and_true]
  omega

theorem ofDigits_eq (digits : List Char) : ofDigits digits = Nat.ofDigitChars 10 digits 0 := by
  simp only [ofDigits, Nat.ofDigitChars_eq_foldl, Nat.mul_comm]

/-- Digits have no blanks at their ends, so trimming leaves them all. -/
theorem trims_digits {before digits after : List Char} (first : AllBlank before)
    (second : AllBlank after) (ascii : ∀ digit ∈ digits, digit.isDigit) :
    Trims (before ++ digits ++ after) digits := by
  refine ⟨⟨before, after, first, second, rfl⟩, ?_, ?_⟩
  · exact fun char head => isBlank_of_isDigit (ascii char (List.mem_of_head? head))
  · exact fun char last => isBlank_of_isDigit (ascii char (List.mem_of_getLast? last))

theorem number?_eq_some_iff {text : List Char} {number : Nat} :
    number? text = some number ↔ Spells text number := by
  constructor
  · intro read
    simp only [number?] at read
    split at read
    · next formed =>
        rcases formed with ⟨some_digit, ascii, few⟩
        cases read
        rcases (Text.trims_trimBlank text).around with ⟨before, after, first, second, split⟩
        have spells := Spells.digits first second some_digit (List.all_eq_true.mp ascii) few
        rw [← split, ← ofDigits_eq] at spells
        exact spells
    · cases read
  · rintro ⟨first, second, some_digit, ascii, few⟩
    have trimmed := Text.trimBlank_eq_iff.mpr (trims_digits first second ascii)
    simp only [number?, trimmed]
    rw [if_pos ⟨some_digit, List.all_eq_true.mpr ascii, few⟩, ofDigits_eq]

theorem number?_eq_none_iff {text : List Char} :
    number? text = none ↔ ∀ number, ¬Spells text number := by
  simp only [Option.eq_none_iff_forall_ne_some, ne_eq, number?_eq_some_iff]

theorem Writes.spells {number : Nat} {text : List Char} (writes : Writes number text) :
    Spells text number := by
  rcases writes with ⟨zeros, first, second, few⟩
  have digits : (toString number).toList = Number.digits number :=
    Number.toList_toString_ofNat number
  have value :
      Nat.ofDigitChars 10 (List.replicate zeros '0' ++ Number.digits number) 0 = number := by
    rw [Nat.ofDigitChars_append, Nat.ofDigitChars_replicate_zero, Nat.mul_zero,
      Number.ofDigitChars_digits]
  rw [digits]
  have spells := Spells.digits first second
    (List.append_ne_nil_of_right_ne_nil (List.replicate zeros '0') (Number.digits_ne_nil number))
    ?_ ?_
  · rw [value] at spells
    exact spells
  · intro digit member
    rcases List.mem_append.mp member with zero | own
    · rw [List.eq_of_mem_replicate zero]
      rfl
    · exact Number.isDigit_of_mem_digits own
  · rw [List.length_append, List.length_replicate, ← digits]
    exact few

/-- A number holds blanks and digits only. -/
theorem Spells.blank_or_digit {text : List Char} {number : Nat} (spells : Spells text number)
    {char : Char} (member : char ∈ text) : isBlank char = true ∨ char.isDigit := by
  rcases spells with ⟨first, second, _, ascii, _⟩
  simp only [List.mem_append] at member
  rcases member with (before | digit) | after
  · exact .inl (first char before)
  · exact .inr (ascii char digit)
  · exact .inl (second char after)

theorem Spells.dash_not_mem {text : List Char} {number : Nat} (spells : Spells text number) :
    '-' ∉ text :=
  fun member => by rcases spells.blank_or_digit member with blank | digit <;> contradiction

theorem Spells.comma_not_mem {text : List Char} {number : Nat} (spells : Spells text number) :
    ',' ∉ text :=
  fun member => by rcases spells.blank_or_digit member with blank | digit <;> contradiction

/-! ## Tokens -/

/-- What a token names: the page of a number, or the pages of two numbers around a dash. -/
inductive Names (total : Nat) (token : List Char) : PageRange → Prop
  | page {number : Nat} (single : '-' ∉ token) (spelled : Spells token number)
      (inside : 1 ≤ number ∧ number ≤ total) : Names total token ⟨number, number⟩
  | range {before after : List Char} {first last : Nat} (split : token = before ++ '-' :: after)
      (earliest : '-' ∉ before) (spelledFirst : Spells before first)
      (spelledLast : Spells after last)
      (inside : 1 ≤ first ∧ first ≤ last ∧ last ≤ total) : Names total token ⟨first, last⟩

/-- The texts of a token that should be numbers. -/
inductive NumberOf (token : List Char) : List Char → Prop
  | whole (single : '-' ∉ token) : NumberOf token token
  | first {before after : List Char} (split : token = before ++ '-' :: after)
      (earliest : '-' ∉ before) : NumberOf token before
  | last {before after : List Char} (split : token = before ++ '-' :: after)
      (earliest : '-' ∉ before) : NumberOf token after

def Malformed (token : List Char) : Prop :=
  ∃ text, NumberOf token text ∧ ∀ number, ¬Spells text number

/-- What is said of a bad token: its numbers are none, or they are not those of pages. -/
inductive Complains (token : List Char) : String → Prop
  | invalidNumber (single : '-' ∉ token) (malformed : Malformed token) :
      Complains token ("Invalid page number: " ++ String.ofList token)
  | invalidRange (divided : '-' ∈ token) (malformed : Malformed token) :
      Complains token ("Invalid page number in range: " ++ String.ofList token)
  | numberOutOfBounds {page : Nat} (spelled : Spells token page) (formed : ¬Malformed token) :
      Complains token ("Page number out of bounds: " ++ toString page)
  | rangeOutOfBounds (divided : '-' ∈ token) (formed : ¬Malformed token) :
      Complains token ("Page range out of bounds: " ++ String.ofList token)

/-- An error is about a token that names no pages. -/
structure Reports (total : Nat) (token : List Char) (error : Error) : Prop where
  bad : ∀ range, ¬Names total token range
  token_eq : error.token = String.ofList token
  complaint : Complains token error.message

variable {total : Nat} {token : List Char}

theorem not_malformed_of_single {page : Nat} (single : '-' ∉ token)
    (spelled : Spells token page) : ¬Malformed token := by
  rintro ⟨text, number, unspelled⟩
  cases number with
  | whole _ => exact unspelled page spelled
  | first split _ => exact single (by simp [split])
  | last split _ => exact single (by simp [split])

theorem not_malformed_of_divided {before after : List Char} {first last : Nat}
    (split : token = before ++ '-' :: after) (earliest : '-' ∉ before)
    (spelledFirst : Spells before first) (spelledLast : Spells after last) :
    ¬Malformed token := by
  have found := Text.splitFirst?_eq_some_iff.mpr ⟨split, earliest⟩
  rintro ⟨text, number, unspelled⟩
  cases number with
  | whole single => exact single (by simp [split])
  | first split' earliest' =>
      cases found.symm.trans (Text.splitFirst?_eq_some_iff.mpr ⟨split', earliest'⟩)
      exact unspelled first spelledFirst
  | last split' earliest' =>
      cases found.symm.trans (Text.splitFirst?_eq_some_iff.mpr ⟨split', earliest'⟩)
      exact unspelled last spelledLast

theorem readToken_of_names {range : PageRange} (names : Names total token range) :
    readToken total token = .ok range := by
  cases names with
  | page single spelled inside =>
      have found := Text.splitFirst?_eq_none_iff.mpr single
      simp only [readToken, found, number?_eq_some_iff.mpr spelled, if_pos inside]
  | range split earliest spelledFirst spelledLast inside =>
      have found := Text.splitFirst?_eq_some_iff.mpr ⟨split, earliest⟩
      simp only [readToken, found, number?_eq_some_iff.mpr spelledFirst,
        number?_eq_some_iff.mpr spelledLast, if_pos inside]

/-- A token is read as what it names, or refused with what is to be said of it. -/
theorem readToken_cases (total : Nat) (token : List Char) :
    (∃ range, readToken total token = .ok range ∧ Names total token range) ∨
      ∃ error, readToken total token = .error error ∧ error.token = String.ofList token ∧
        Complains token error.message := by
  cases found : Text.splitFirst? '-' token with
  | none =>
      have single := Text.splitFirst?_eq_none_iff.mp found
      cases number : number? token with
      | none =>
          have malformed : Malformed token := ⟨token, .whole single, number?_eq_none_iff.mp number⟩
          exact .inr ⟨.invalidNumber (String.ofList token), by simp only [readToken, found, number],
            rfl, .invalidNumber single malformed⟩
      | some page =>
          have spelled := number?_eq_some_iff.mp number
          by_cases inside : 1 ≤ page ∧ page ≤ total
          · exact .inl ⟨_, by simp only [readToken, found, number, if_pos inside],
              .page single spelled inside⟩
          · exact .inr ⟨.numberOutOfBounds page (String.ofList token),
              by simp only [readToken, found, number, if_neg inside], rfl,
              .numberOutOfBounds spelled (not_malformed_of_single single spelled)⟩
  | some parts =>
      rcases parts with ⟨before, after⟩
      rcases Text.splitFirst?_eq_some_iff.mp found with ⟨split, earliest⟩
      have divided : '-' ∈ token := by simp [split]
      cases number : number? before with
      | none =>
          have malformed : Malformed token :=
            ⟨before, .first split earliest, number?_eq_none_iff.mp number⟩
          exact .inr ⟨.invalidRange (String.ofList token), by simp only [readToken, found, number],
            rfl, .invalidRange divided malformed⟩
      | some first =>
          cases number' : number? after with
          | none =>
              have malformed : Malformed token :=
                ⟨after, .last split earliest, number?_eq_none_iff.mp number'⟩
              exact .inr ⟨.invalidRange (String.ofList token),
                by simp only [readToken, found, number, number'], rfl,
                .invalidRange divided malformed⟩
          | some last =>
              have spelledFirst := number?_eq_some_iff.mp number
              have spelledLast := number?_eq_some_iff.mp number'
              by_cases inside : 1 ≤ first ∧ first ≤ last ∧ last ≤ total
              · exact .inl ⟨_, by simp only [readToken, found, number, number', if_pos inside],
                  .range split earliest spelledFirst spelledLast inside⟩
              · have formed := not_malformed_of_divided split earliest spelledFirst spelledLast
                exact .inr ⟨.rangeOutOfBounds (String.ofList token),
                  by simp only [readToken, found, number, number', if_neg inside], rfl,
                  .rangeOutOfBounds divided formed⟩

theorem readToken_eq_ok_iff {range : PageRange} :
    readToken total token = .ok range ↔ Names total token range := by
  constructor
  · intro read
    rcases readToken_cases total token with ⟨other, same, names⟩ | ⟨error, refused, _⟩
    · cases same.symm.trans read
      exact names
    · cases refused.symm.trans read
  · exact readToken_of_names

theorem reports_of_readToken {error : Error} (refused : readToken total token = .error error) :
    Reports total token error := by
  rcases readToken_cases total token with ⟨range, read, _⟩ | ⟨other, same, about, complains⟩
  · cases read.symm.trans refused
  · cases same.symm.trans refused
    refine ⟨?_, about, complains⟩
    intro range names
    cases refused.symm.trans (readToken_of_names names)

/-! ## Selectors -/

/-- The tokens of a selector: what stands between its commas, without the blanks at the ends. -/
def Cuts (selector : String) (tokens : List (List Char)) : Prop :=
  ∃ pieces, (pieces ≠ [] ∧ (∀ piece ∈ pieces, ',' ∉ piece) ∧
      [','].intercalate pieces = selector.toList) ∧
    List.Forall₂ Trims pieces tokens

/-- A range as it may be written: a dash between its two numbers. -/
inductive WritesRange (range : PageRange) : List Char → Prop
  | dashed {before after : List Char} (first : Writes range.first before)
      (last : Writes range.last after) : WritesRange range (before ++ '-' :: after)

theorem cuts_iff {selector : String} {tokens : List (List Char)} :
    Cuts selector tokens ↔
      tokens = (Text.splitAll (· == ',') selector.toList).map Text.trimBlank := by
  have trims {pieces : List (List Char)} :
      List.Forall₂ Trims pieces tokens ↔ tokens = pieces.map Text.trimBlank := by
    have equal : Trims = fun piece token => Text.trimBlank piece = token := by
      funext piece token
      exact propext Text.trimBlank_eq_iff.symm
    rw [equal, ← List.forall₂_map_left_iff (R := Eq), List.forall₂_eq_eq_eq, eq_comm]
  simp only [Cuts, ← Text.splitAll_eq_iff, trims, exists_eq_left']

theorem readTokens_eq_ok_iff {pieces : List (List Char)} {ranges : List PageRange} :
    readTokens total pieces = .ok ranges ↔
      List.Forall₂ (Names total) (pieces.map Text.trimBlank) ranges := by
  induction pieces generalizing ranges with
  | nil =>
      rw [List.map_nil, List.forall₂_nil_left_iff]
      exact ⟨fun read => (Except.ok.inj read).symm, fun empty => congrArg Except.ok empty.symm⟩
  | cons piece pieces ih =>
      simp only [readTokens_cons_eq_ok_iff, readToken_eq_ok_iff, ih, List.map_cons,
        List.forall₂_cons_left_iff]

theorem readTokens_cons_eq_error_iff {piece : List Char} {pieces : List (List Char)}
    {error : Error} :
    readTokens total (piece :: pieces) = .error error ↔
      readToken total (Text.trimBlank piece) = .error error ∨
        (∃ range, readToken total (Text.trimBlank piece) = .ok range) ∧
          readTokens total pieces = .error error := by
  simp only [readTokens]
  cases readToken total (Text.trimBlank piece) with
  | error first => simp [bind, Except.bind]
  | ok range => cases readTokens total pieces <;> simp [bind, Except.bind, pure, Except.pure]

/-- The tokens before the one that is reported all name something. -/
theorem reports_of_readTokens {pieces : List (List Char)} {error : Error}
    (refused : readTokens total pieces = .error error) :
    ∃ before token after, pieces.map Text.trimBlank = before ++ token :: after ∧
      (∀ earlier ∈ before, ∃ range, Names total earlier range) ∧ Reports total token error := by
  induction pieces with
  | nil => cases refused
  | cons piece pieces ih =>
      rcases readTokens_cons_eq_error_iff.mp refused with here | ⟨⟨range, read⟩, later⟩
      · exact ⟨[], _, _, rfl, by simp, reports_of_readToken here⟩
      · rcases ih later with ⟨before, token, after, split, named, reports⟩
        refine ⟨_ :: before, token, after, congrArg (List.cons _) split, ?_, reports⟩
        exact List.forall_mem_cons.mpr ⟨⟨range, readToken_eq_ok_iff.mp read⟩, named⟩

/-! ## Written ranges -/

/-- Of the blanks of two numbers around a dash only those at the ends are trimmed. -/
theorem trimBlank_dashed {before after : List Char} {first last : Nat}
    (spelledFirst : Spells before first) (spelledLast : Spells after last) :
    ∃ start stop, Text.trimBlank (before ++ '-' :: after) = start ++ '-' :: stop ∧
      Spells start first ∧ Spells stop last := by
  rcases spelledFirst with ⟨outer, inner, some_digit, ascii, few⟩
  rcases spelledLast with ⟨inner', outer', some_digit', ascii', few'⟩
  next left digits right left' digits' right' =>
    have nothing : AllBlank [] := by simp [AllBlank]
    have start := Spells.digits nothing inner some_digit ascii few
    have stop := Spells.digits inner' nothing some_digit' ascii' few'
    rw [List.nil_append] at start
    rw [List.append_nil] at stop
    refine ⟨digits ++ right, left' ++ digits', ?_, start, stop⟩
    refine Text.trimBlank_eq_iff.mpr ⟨⟨left, right', outer, outer', by simp⟩, ?_, ?_⟩
    · intro char head
      rw [List.append_assoc, List.head?_append_of_ne_nil _ some_digit] at head
      exact isBlank_of_isDigit (ascii char (List.mem_of_head? head))
    · intro char last
      have regroup : digits ++ right ++ '-' :: (left' ++ digits') =
          (digits ++ right ++ '-' :: left') ++ digits' := by simp
      rw [regroup, List.getLast?_append_of_ne_nil _ some_digit'] at last
      exact isBlank_of_isDigit (ascii' char (List.mem_of_getLast? last))

theorem WritesRange.names {range : PageRange} {text : List Char} (writes : WritesRange range text)
    (within : range.Within total) : Names total (Text.trimBlank text) range := by
  rcases writes with ⟨first, last⟩
  rcases trimBlank_dashed first.spells last.spells with ⟨start, stop, trimmed, before, after⟩
  rw [trimmed]
  exact .range rfl before.dash_not_mem before after within

theorem WritesRange.comma_not_mem {range : PageRange} {text : List Char}
    (writes : WritesRange range text) : ',' ∉ text := by
  rcases writes with ⟨first, last⟩
  simp [first.spells.comma_not_mem, last.spells.comma_not_mem]

/-- Written ranges are read back, whatever blanks and leading zeros were written with them. -/
theorem parse_of_writes {ranges : List PageRange} {texts : List String} (some_range : ranges ≠ [])
    (within : ∀ range ∈ ranges, range.Within total)
    (written : List.Forall₂ (fun range text => WritesRange range text.toList) ranges texts) :
    parse (",".intercalate texts) total = .ok ranges := by
  have named : List.Forall₂ (fun text range => ',' ∉ text.toList ∧
      Names total (Text.trimBlank text.toList) range) texts ranges := by
    have both := (List.forall₂_and_left _ _).mpr ⟨within, written⟩
    refine List.Forall₂.flip (List.Forall₂.imp ?_ both)
    exact fun range text ⟨inside, writes⟩ => ⟨writes.comma_not_mem, writes.names inside⟩
  rw [List.forall₂_and_left] at named
  have pieces : Text.splitAll (· == ',') (",".intercalate texts).toList =
      texts.map String.toList := by
    rw [Text.splitAll_eq_iff, String.toList_intercalate]
    refine ⟨?_, List.forall_mem_map.mpr named.1, rfl⟩
    intro empty
    rw [List.map_eq_nil_iff.mp empty, List.forall₂_nil_right_iff] at written
    exact some_range written
  rw [parse, pieces, readTokens_eq_ok_iff, List.map_map, List.forall₂_map_left_iff]
  exact named.2

/--
A selector has one list of tokens. When all of them name something, reading it gives what they
name, one range for each token and in order; otherwise the first token that names nothing is
reported. Ranges of pages that are written out in any way are read back.
-/
theorem parse_follows_grammar (total : Nat) :
    (∀ selector, ∃ tokens, Cuts selector tokens ∧
      (∀ others, Cuts selector others → others = tokens) ∧
      (∀ ranges, parse selector total = .ok ranges ↔ List.Forall₂ (Names total) tokens ranges) ∧
      ∀ error, parse selector total = .error error →
        ∃ before token after, tokens = before ++ token :: after ∧
          (∀ earlier ∈ before, ∃ range, Names total earlier range) ∧ Reports total token error) ∧
    ∀ (ranges : List PageRange) (texts : List String), ranges ≠ [] →
      (∀ range ∈ ranges, range.Within total) →
      List.Forall₂ (fun range text => WritesRange range text.toList) ranges texts →
      parse (",".intercalate texts) total = .ok ranges := by
  refine ⟨?_, fun ranges texts some_range within => parse_of_writes some_range within⟩
  intro selector
  refine ⟨_, cuts_iff.mpr rfl, fun others => cuts_iff.mp, ?_, ?_⟩
  · exact fun ranges => readTokens_eq_ok_iff
  · exact fun error => reports_of_readTokens

example : parse " 2 , 004 -\t6,6" 6 = .ok [⟨2, 2⟩, ⟨4, 6⟩, ⟨6, 6⟩] := by decide +kernel

end Typeset.PageSelector
