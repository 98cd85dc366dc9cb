import Typeset.PackageSpec
import Typeset.Proofs.HostPath
import Typeset.Proofs.Text.Blank

/-!
# Written package specifications

A text is a specification if, blanks at its ends aside, it is what a specification of proper parts
is written as. No part holds the separator behind it, so there is one way to read it. In an
address the name and the version are joined by a hyphen, which names may hold and versions may
not. The three parts are plain components of a path.
-/

namespace Typeset

namespace PackageSpec

open VirtualPath

/-- Characters of a class, at least one. -/
structure IsRun (holds : Char → Bool) (chars : List Char) : Prop where
  nonempty : chars ≠ []
  each : ∀ char ∈ chars, holds char = true

/-- Three runs of decimal digits between dots. -/
inductive IsVersion : List Char → Prop
  | dotted {major minor patch : List Char} (first : IsRun Text.isDecimal major)
      (second : IsRun Text.isDecimal minor) (third : IsRun Text.isDecimal patch) :
      IsVersion (major ++ '.' :: (minor ++ '.' :: patch))

/-- A specification of parts that can be written. -/
structure IsProper (spec : PackageSpec) : Prop where
  nameSpace : IsRun isNameChar spec.nameSpace.toList
  name : IsRun isNameChar spec.name.toList
  version : IsVersion spec.version.toList

variable {holds : Char → Bool} {chars rest : List Char} {text : String} {spec other : PackageSpec}

/-! ## Runs -/

theorem IsRun.not_mem (run : IsRun holds chars) {char : Char} (foreign : holds char = false) :
    char ∉ chars := by
  intro member
  simp [run.each char member] at foreign

theorem expect?_eq_some_iff {char : Char} :
    expect? char chars = some rest ↔ chars = char :: rest := by
  cases chars with
  | nil => simp [expect?]
  | cons head tail =>
      rw [expect?]
      split
      · next same => simp [same]
      · next different => simp [different]

/-- A run is taken up to the first character that is not of the class. -/
theorem run?_eq_some_iff {taken : List Char} :
    run? holds chars = some (taken, rest) ↔
      IsRun holds taken ∧ chars = taken ++ rest ∧ ∀ char ∈ rest.head?, holds char = false := by
  constructor
  · intro read
    rw [run?] at read
    split at read
    · cases read
    · next some_char =>
        cases read
        refine ⟨⟨some_char, fun _ => List.mem_takeWhile_imp⟩,
          List.takeWhile_append_dropWhile.symm, ?_⟩
        intro char first
        have head := List.head?_dropWhile_not holds chars
        rw [Option.mem_def.mp first] at head
        exact head
  · rintro ⟨run, rfl, stops⟩
    have none_more : rest.takeWhile holds = [] ∧ rest.dropWhile holds = rest := by
      cases rest with
      | nil => exact ⟨rfl, rfl⟩
      | cons char rest => simp [stops char rfl]
    rw [run?, List.takeWhile_append_of_pos run.each, List.dropWhile_append_of_pos run.each,
      none_more.1, none_more.2, List.append_nil]
    cases taken with
    | nil => exact absurd rfl run.nonempty
    | cons char taken => rfl

/-- What is read of a run when a separator that is not of the class stands behind it. -/
theorem run?_separated {taken : List Char} {separator : Char} (run : IsRun holds taken)
    (separates : holds separator = false) (rest : List Char) :
    run? holds (taken ++ separator :: rest) = some (taken, separator :: rest) := by
  rw [run?_eq_some_iff]
  refine ⟨run, rfl, ?_⟩
  intro char first
  cases first
  exact separates

theorem run?_whole {taken : List Char} (run : IsRun holds taken) :
    run? holds taken = some (taken, []) := by
  rw [run?_eq_some_iff, List.append_nil]
  exact ⟨run, rfl, fun _ first => by cases first⟩

/-! ## Versions -/

theorem IsVersion.not_mem (version : IsVersion chars) {char : Char}
    (foreign : Text.isDecimal char = false) (no_dot : char ≠ '.') : char ∉ chars := by
  cases version with
  | dotted first second third =>
      simp [first.not_mem foreign, second.not_mem foreign, third.not_mem foreign, no_dot]

theorem IsVersion.exists_first (version : IsVersion chars) :
    ∃ char rest, chars = char :: rest ∧ Text.isDecimal char = true := by
  cases version with
  | dotted first second third =>
      rcases List.exists_cons_of_ne_nil first.nonempty with ⟨char, rest, rfl⟩
      exact ⟨char, _, rfl, first.each char List.mem_cons_self⟩

theorem IsVersion.exists_last (version : IsVersion chars) :
    ∃ front last, chars = front ++ [last] ∧ Text.isDecimal last = true := by
  cases version with
  | @dotted major minor patch _ _ third =>
      rcases List.eq_nil_or_concat patch with nothing | ⟨front, last, rfl⟩
      · exact absurd nothing third.nonempty
      · refine ⟨major ++ '.' :: (minor ++ '.' :: front), last, by simp, ?_⟩
        exact third.each last (by simp)

/-! ## Reading what is written -/

theorem toList_render (spec : PackageSpec) :
    spec.render.toList =
      '@' :: (spec.nameSpace.toList ++ '/' ::
        (spec.name.toList ++ ':' :: spec.version.toList)) := by
  have joined : spec.render =
      "@" ++ spec.nameSpace ++ "/" ++ spec.name ++ ":" ++ spec.version := rfl
  simp [joined]

theorem ofChars?_render (proper : spec.IsProper) : ofChars? spec.render.toList = some spec := by
  rcases spec with ⟨nameSpace, name, version⟩
  rcases proper with ⟨namespaceRun, nameRun, versioned⟩
  rw [toList_render]
  dsimp only at versioned ⊢
  generalize parts : version.toList = digits at versioned
  cases versioned with
  | dotted first second third =>
      simp only [ofChars?, expect?, Option.bind_eq_bind, Option.bind_some, reduceIte,
        run?_separated namespaceRun (by decide : isNameChar '/' = false),
        run?_separated nameRun (by decide : isNameChar ':' = false),
        run?_separated first (by decide : Text.isDecimal '.' = false),
        run?_separated second (by decide : Text.isDecimal '.' = false), run?_whole third]
      rw [← parts]
      simp

theorem proper_of_ofChars? (read : ofChars? chars = some spec) :
    spec.IsProper ∧ spec.render.toList = chars := by
  simp only [ofChars?, Option.bind_eq_bind, Option.bind_eq_some_iff, expect?_eq_some_iff,
    Prod.exists, run?_eq_some_iff] at read
  rcases read with ⟨_, rfl, nameSpace, _, ⟨namespaceRun, rfl, _⟩, _, rfl, name, _,
    ⟨nameRun, rfl, _⟩, _, rfl, major, _, ⟨first, rfl, _⟩, _, rfl, minor, _,
    ⟨second, rfl, _⟩, _, rfl, patch, rest, ⟨third, rfl, _⟩, made⟩
  split at made
  · next nothing =>
      subst nothing
      rw [List.append_nil] at made
      cases made
      constructor
      · constructor
        · simpa using namespaceRun
        · simpa using nameRun
        · simpa using IsVersion.dotted first second third
      · simp [toList_render]
  · cases made

theorem ofChars?_eq_some_iff :
    ofChars? chars = some spec ↔ spec.IsProper ∧ spec.render.toList = chars := by
  constructor
  · exact proper_of_ofChars?
  · rintro ⟨proper, rfl⟩
    exact ofChars?_render proper

theorem parse?_eq_some_iff :
    parse? text = some spec ↔ spec.IsProper ∧ spec.render = Text.strip text := by
  rw [parse?, ofChars?_eq_some_iff, Text.strip, ← String.toList_inj, String.toList_ofList]

theorem not_isBlank_of_isDecimal {char : Char} (decimal : Text.isDecimal char = true) :
    Text.isBlank char = false := by
  apply Text.not_inRanges_of_apart _ decimal
  decide +kernel

/-- A written specification has no blanks at its ends. -/
theorem strip_render (proper : spec.IsProper) : Text.strip spec.render = spec.render := by
  have trims : Text.Trims spec.render.toList spec.render.toList := by
    constructor
    · exact ⟨[], [], by simp [Text.AllBlank], by simp [Text.AllBlank], by simp⟩
    · intro char first
      rw [toList_render] at first
      cases first
      rfl
    · rcases proper.version.exists_last with ⟨front, digit, version, decimal⟩
      intro char last
      simp only [toList_render, version, ← List.cons_append, ← List.append_assoc,
        List.getLast?_concat, Option.mem_def, Option.some.injEq] at last
      exact last ▸ not_isBlank_of_isDecimal decimal
  rw [Text.strip, Text.trimBlank_eq_iff.mpr trims, String.ofList_toList]

theorem parse?_render (proper : spec.IsProper) : parse? spec.render = some spec := by
  rw [parse?_eq_some_iff]
  exact ⟨proper, (strip_render proper).symm⟩

/-! ## The directory of a package -/

/-- A component is plain that has no separators and something other than dots. -/
theorem plain_of_unseparated {component : String} {char : Char} (member : char ∈ component.toList)
    (no_dot : char ≠ '.') (no_slash : '/' ∉ component.toList)
    (no_backslash : '\\' ∉ component.toList) : IsPlain component where
  nonempty := by
    rintro rfl
    simp at member
  not_here := by
    rintro rfl
    simp [no_dot] at member
  not_up := by
    rintro rfl
    simp [no_dot] at member
  unseparated := by
    intro other inside
    have not_slash : other ≠ '/' := fun slash => no_slash (slash ▸ inside)
    have not_backslash : other ≠ '\\' := fun backslash => no_backslash (backslash ▸ inside)
    simp [isSeparator, not_slash, not_backslash]

theorem plain_of_nameChars {name : String} (run : IsRun isNameChar name.toList) :
    IsPlain name := by
  rcases List.exists_mem_of_ne_nil _ run.nonempty with ⟨char, member⟩
  have no_dot : char ≠ '.' := by
    rintro rfl
    exact run.not_mem rfl member
  exact plain_of_unseparated member no_dot (run.not_mem rfl) (run.not_mem rfl)

theorem plain_of_version {version : String} (digits : IsVersion version.toList) :
    IsPlain version := by
  rcases digits.exists_first with ⟨char, rest, shown, decimal⟩
  have member : char ∈ version.toList := by
    rw [shown]
    exact List.mem_cons_self
  have no_dot : char ≠ '.' := by
    rintro rfl
    cases decimal
  exact plain_of_unseparated member no_dot (digits.not_mem rfl (by decide))
    (digits.not_mem rfl (by decide))

theorem plain_directory (proper : spec.IsProper) :
    ∀ component ∈ spec.directory, IsPlain component := by
  simp only [directory, List.forall_mem_cons]
  exact ⟨plain_of_nameChars proper.nameSpace, plain_of_nameChars proper.name,
    plain_of_version proper.version, fun _ => by simp⟩

theorem directory_inj : spec.directory = other.directory ↔ spec = other := by
  rcases spec with ⟨nameSpace, name, version⟩
  rcases other with ⟨nameSpace', name', version'⟩
  simp [directory]

/-! ## The address of a package -/

theorem toList_archiveUrl (spec : PackageSpec) (registry : String) :
    (spec.archiveUrl registry).toList =
      registry.toList ++ '/' :: (spec.nameSpace.toList ++ '/' ::
        (spec.name.toList ++ '-' :: spec.version.toList)) ++ ".tar.gz".toList := by
  have joined : spec.archiveUrl registry =
      registry ++ "/" ++ spec.nameSpace ++ "/" ++ spec.name ++ "-" ++ spec.version ++ ".tar.gz" :=
    rfl
  simp [joined]

/-- A name may hold hyphens, but no version does, so the last one stands between the two. -/
theorem archiveUrl_inj (proper : spec.IsProper) (proper' : other.IsProper) (registry : String) :
    spec.archiveUrl registry = other.archiveUrl registry ↔ spec = other := by
  constructor
  · intro same
    rw [← String.toList_inj, toList_archiveUrl, toList_archiveUrl, List.append_cancel_right_eq,
      List.append_cancel_left_eq, List.cons_inj_right,
      Text.append_cons_inj_first (proper.nameSpace.not_mem rfl) (proper'.nameSpace.not_mem rfl),
      Text.append_cons_inj_last (proper.version.not_mem rfl (by decide))
        (proper'.version.not_mem rfl (by decide))] at same
    simp only [String.toList_inj] at same
    rcases spec with ⟨nameSpace, name, version⟩
    rcases other with ⟨nameSpace', name', version'⟩
    rcases same with ⟨rfl, rfl, rfl⟩
    rfl
  · exact congrArg (archiveUrl · registry)

/-! ## All texts -/

theorem exists_parse?_iff :
    (∃ spec, parse? text = some spec) ↔
      ∃ nameSpace name major minor patch : List Char,
        IsRun isNameChar nameSpace ∧ IsRun isNameChar name ∧ IsRun Text.isDecimal major ∧
        IsRun Text.isDecimal minor ∧ IsRun Text.isDecimal patch ∧
        (Text.strip text).toList = '@' :: (nameSpace ++ '/' :: (name ++ ':' ::
          (major ++ '.' :: (minor ++ '.' :: patch)))) := by
  constructor
  · rintro ⟨spec, read⟩
    rcases parse?_eq_some_iff.mp read with ⟨⟨namespaceRun, nameRun, version⟩, written⟩
    rw [← written, toList_render]
    generalize spec.version.toList = digits at version
    cases version with
    | dotted first second third =>
        exact ⟨_, _, _, _, _, namespaceRun, nameRun, first, second, third, rfl⟩
  · rintro ⟨nameSpace, name, major, minor, patch, namespaceRun, nameRun, first, second, third,
      written⟩
    refine ⟨⟨String.ofList nameSpace, String.ofList name,
      String.ofList (major ++ '.' :: (minor ++ '.' :: patch))⟩, ?_⟩
    rw [parse?_eq_some_iff, ← String.toList_inj, toList_render, written]
    simp only [String.toList_ofList, and_true]
    constructor
    · simpa using namespaceRun
    · simpa using nameRun
    · simpa using IsVersion.dotted first second third

/--
A text is a specification exactly if, blanks at its ends aside, it is an at sign, a namespace, a
slash, a name, a colon and three runs of decimal digits between dots. Then the specification is
written as this and read from it again. Its directory is three plain components below the
directory of all packages. Specifications that differ have neither a directory nor an address in
common.
-/
theorem specifications_read_back_and_never_collide (text : String) :
    ((∃ spec, parse? text = some spec) ↔
      ∃ nameSpace name major minor patch : List Char,
        IsRun isNameChar nameSpace ∧ IsRun isNameChar name ∧ IsRun Text.isDecimal major ∧
        IsRun Text.isDecimal minor ∧ IsRun Text.isDecimal patch ∧
        (Text.strip text).toList = '@' :: (nameSpace ++ '/' :: (name ++ ':' ::
          (major ++ '.' :: (minor ++ '.' :: patch))))) ∧
    ∀ spec, parse? text = some spec →
      spec.IsProper ∧ spec.render = Text.strip text ∧ parse? spec.render = some spec ∧
      spec.directory.length = 3 ∧ (∀ component ∈ spec.directory, IsPlain component) ∧
      (∀ base : HostPath, base.descend spec.directory = base.append spec.directory ∧
        (base.append spec.directory).LiesWithin base) ∧
      ∀ (text' : String) (other : PackageSpec), parse? text' = some other → spec ≠ other →
        (∀ base base' : HostPath, base.append spec.directory ≠ base'.append other.directory) ∧
        ∀ registry, spec.archiveUrl registry ≠ other.archiveUrl registry := by
  refine ⟨exists_parse?_iff, ?_⟩
  intro spec read
  rcases parse?_eq_some_iff.mp read with ⟨proper, written⟩
  have plain := plain_directory proper
  refine ⟨proper, written, parse?_render proper, rfl, plain, ?_, ?_⟩
  · intro base
    exact ⟨HostPath.descend_of_plain plain base, HostPath.liesWithin_append plain base⟩
  · intro text' other read' different
    rcases parse?_eq_some_iff.mp read' with ⟨proper', _⟩
    constructor
    · intro base base' same
      have components := congrArg HostPath.components same
      apply different
      rw [← directory_inj]
      exact (List.append_inj' components rfl).2
    · intro registry same
      exact different ((archiveUrl_inj proper proper' registry).mp same)

example : parse? " @preview/a-1:0.1.٣\n" = some ⟨"preview", "a-1", "0.1.٣"⟩ := by decide +kernel

end PackageSpec

end Typeset
