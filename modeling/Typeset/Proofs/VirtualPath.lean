import Typeset.Proofs.Text.Split
import Typeset.VirtualPath

/-!
# Spellings of virtual paths

A written path is followed component by component, from where the path before it has led. It
drops as many components of that path as it climbs over, and spells the others itself.
What it leads to has plain components only, and the normal spelling of such a path leads to it
again. So the normal spelling of a written path can stand for it wherever more is written behind
it, and a text that is a normal spelling is its own.
-/

namespace Typeset.VirtualPath

/-- A component that is kept as it is written. -/
structure IsPlain (component : String) : Prop where
  nonempty : component ≠ ""
  not_here : component ≠ "."
  not_up : component ≠ ".."
  unseparated : ∀ char ∈ component.toList, isSeparator char = false

/-- A path of plain components. -/
def Plain (path : VirtualPath) : Prop :=
  ∀ component ∈ path.components, IsPlain component

/-- A text with a slash in the place of every backslash. -/
def withSlashes (text : String) : String :=
  text.map fun char => if char = '\\' then '/' else char

/-- The components of a text between slashes; the empty text has none. -/
def written (text : String) : List String :=
  if text = "" then [] else Text.pieces (· == '/') text

/-- A text in normal form. -/
structure IsNormal (text : String) : Prop where
  no_backslash : '\\' ∉ text.toList
  no_leading_slash : text.toList.head? ≠ some '/'
  no_trailing_slash : text.toList.getLast? ≠ some '/'
  proper : ∀ component ∈ written text, component ≠ "" ∧ component ≠ "." ∧ component ≠ ".."

variable {path : VirtualPath}

/-! ## Following what is written -/

theorem step_of_idle {component : String} (idle : component = "" ∨ component = ".")
    (components : List String) : step components component = components :=
  if_pos idle

theorem step_of_plain {component : String} (plain : IsPlain component)
    (components : List String) : step components component = components ++ [component] := by
  have kept : ¬(component = "" ∨ component = ".") :=
    fun idle => idle.elim plain.nonempty plain.not_here
  rw [step, if_neg kept, if_neg plain.not_up]

theorem extend_append (path : VirtualPath) (front rest : String) :
    path.extend (front ++ "/" ++ rest) = (path.extend front).extend rest := by
  have parts : (front ++ "/" ++ rest).toList = front.toList ++ '/' :: rest.toList := by simp
  simp only [extend, Text.pieces, parts]
  rw [Text.splitAll_append_cons _ _ rfl, List.map_append, List.foldl_append]

theorem extend_of_unseparated {component : String}
    (unseparated : ∀ char ∈ component.toList, isSeparator char = false) (path : VirtualPath) :
    path.extend component = ⟨step path.components component⟩ := by
  simp only [extend, Text.pieces, Text.splitAll_of_unseparated unseparated, List.map_cons,
    List.map_nil, List.foldl_cons, List.foldl_nil, String.ofList_toList]

theorem extend_of_idle {component : String} (idle : component = "" ∨ component = ".")
    (path : VirtualPath) : path.extend component = path := by
  have unseparated : ∀ char ∈ component.toList, isSeparator char = false := by
    rcases idle with rfl | rfl <;> simp [isSeparator]
  rw [extend_of_unseparated unseparated, step_of_idle idle]

theorem extend_up (path : VirtualPath) : path.extend ".." = path.parent :=
  extend_of_unseparated (by simp [isSeparator]) path

theorem extend_of_plain {component : String} (plain : IsPlain component) (path : VirtualPath) :
    path.extend component = ⟨path.components ++ [component]⟩ := by
  rw [extend_of_unseparated plain.unseparated, step_of_plain plain]

/-- Joined texts are followed one after another. -/
theorem extend_intercalate (path : VirtualPath) (texts : List String) :
    path.extend ("/".intercalate texts) = texts.foldl extend path := by
  induction texts generalizing path with
  | nil =>
      rw [String.intercalate_nil]
      exact extend_of_idle (.inl rfl) path
  | cons text texts ih =>
      cases texts with
      | nil => rw [String.intercalate_singleton, List.foldl_cons, List.foldl_nil]
      | cons next texts => rw [String.intercalate_cons_cons, extend_append, ih, ← List.foldl_cons]

theorem foldl_extend_of_plain {components : List String}
    (plain : ∀ component ∈ components, IsPlain component) (path : VirtualPath) :
    components.foldl extend path = ⟨path.components ++ components⟩ := by
  induction components generalizing path with
  | nil => rw [List.foldl_nil, List.append_nil]
  | cons component components ih =>
      rw [List.forall_mem_cons] at plain
      rw [List.foldl_cons, ih plain.2, extend_of_plain plain.1, List.append_assoc,
        List.singleton_append]

/-- The normal spelling of a plain path leads down its components, one after another. -/
theorem extend_render (plain : path.Plain) (base : VirtualPath) :
    base.extend path.render = ⟨base.components ++ path.components⟩ := by
  rw [render, extend_intercalate, foldl_extend_of_plain plain]

theorem parse_render (plain : path.Plain) : parse path.render = path :=
  extend_render plain root

/-! ## What is kept of the path before -/

/-- How many components of the path before are dropped while written components are followed. -/
def climbs : List String → Nat
  | [] => 0
  | component :: components =>
      if component = "" ∨ component = "." then climbs components
      else if component = ".." then climbs components + 1
      else climbs components - 1

theorem take_dropLast_sub (components : List String) (count : Nat) :
    components.dropLast.take (components.dropLast.length - count) =
      components.take (components.length - (count + 1)) := by
  have kept : min (components.length - 1 - count) (components.length - 1) =
      components.length - (count + 1) := by omega
  rw [List.length_dropLast, List.dropLast_eq_take, List.take_take, kept]

/-- What is dropped of a longer path is its last component first. -/
theorem take_concat_sub (components : List String) (component : String) (count : Nat) :
    (components ++ [component]).take ((components ++ [component]).length - count) =
      components.take (components.length - (count - 1)) ++
        [component].take ([component].length - count) := by
  have behind : components.length + 1 - count - components.length = 1 - count := by omega
  rw [List.length_append, List.length_singleton, List.take_append, behind]
  rcases count with _ | count
  · have all : components.length ≤ components.length - (0 - 1) := by omega
    have more : components.length ≤ components.length + 1 - 0 := by omega
    rw [List.take_of_length_le all, List.take_of_length_le more]
  · rw [Nat.add_sub_add_right, Nat.add_sub_cancel]

theorem foldl_step_eq (followed components : List String) :
    followed.foldl step components =
      components.take (components.length - climbs followed) ++ followed.foldl step [] := by
  induction followed generalizing components with
  | nil => simp [climbs]
  | cons component followed ih =>
      rw [List.foldl_cons, List.foldl_cons, ih (step components component), ih (step [] component),
        climbs]
      by_cases idle : component = "" ∨ component = "."
      · rw [step_of_idle idle, step_of_idle idle, if_pos idle, List.take_nil, List.nil_append]
      · rw [step, step, if_neg idle, if_neg idle, if_neg idle]
        by_cases up : component = ".."
        · rw [if_pos up, if_pos up, if_pos up, take_dropLast_sub, List.dropLast_nil, List.take_nil,
            List.nil_append]
        · rw [if_neg up, if_neg up, if_neg up, take_concat_sub, List.nil_append, List.append_assoc]

/-- A path keeps its upper components, and behind them lies what the text spells from the root. -/
theorem extend_eq (path : VirtualPath) (text : String) :
    path.extend text =
      ⟨path.components.take (path.components.length - climbs (Text.pieces isSeparator text)) ++
        (parse text).components⟩ := by
  rw [extend, foldl_step_eq]
  rfl

theorem extend_eq_parse_iff {text : String} :
    path.extend text = parse text ↔
      path.components.length ≤ climbs (Text.pieces isSeparator text) := by
  rw [extend_eq]
  constructor
  · intro same
    have lengths := congrArg (·.components.length) same
    simp only [List.length_append, List.length_take] at lengths
    omega
  · intro above
    rw [Nat.sub_eq_zero_of_le above, List.take_zero, List.nil_append]

/-! ## What is led to is plain -/

theorem plain_step {components : List String} {component : String}
    (plain : ∀ other ∈ components, IsPlain other)
    (unseparated : ∀ char ∈ component.toList, isSeparator char = false) :
    ∀ other ∈ step components component, IsPlain other := by
  rw [step]
  split
  · exact plain
  · next kept =>
      split
      · exact fun other member => plain other (List.dropLast_subset _ member)
      · next down =>
          rw [not_or] at kept
          exact List.forall_mem_append.mpr
            ⟨plain, List.forall_mem_singleton.mpr ⟨kept.1, kept.2, down, unseparated⟩⟩

theorem plain_extend (plain : path.Plain) (text : String) : (path.extend text).Plain := by
  have unseparated : ∀ piece ∈ Text.pieces isSeparator text,
      ∀ char ∈ piece.toList, isSeparator char = false := by
    intro piece member
    rcases List.mem_map.mp member with ⟨chars, cut, rfl⟩
    rw [String.toList_ofList]
    exact Text.unseparated_of_mem_splitAll cut
  rw [extend]
  generalize Text.pieces isSeparator text = pieces at unseparated
  rcases path with ⟨components⟩
  induction pieces generalizing components with
  | nil => exact plain
  | cons piece pieces ih =>
      rw [List.forall_mem_cons] at unseparated
      exact ih unseparated.2 (step components piece) (plain_step plain unseparated.1)

theorem plain_parse (text : String) : (parse text).Plain :=
  plain_extend (fun _ member => absurd member List.not_mem_nil) text

theorem parse_normalize (text : String) : parse (normalize text) = parse text :=
  parse_render (plain_parse text)

/-! ## Normal spellings -/

/-- The components of a normal spelling are those of the path. -/
theorem written_render (plain : path.Plain) : written path.render = path.components := by
  rcases path with ⟨components⟩
  by_cases empty : components = []
  · rw [empty]
    rfl
  · have chars : Text.splitAll (· == '/') (render ⟨components⟩).toList =
        components.map String.toList := by
      rw [Text.splitAll_eq_iff, render, String.toList_intercalate]
      refine ⟨by simpa using empty, List.forall_mem_map.mpr ?_, rfl⟩
      intro component member slash
      have plain := (plain component member).unseparated '/' slash
      cases plain
    have pieces : Text.pieces (· == '/') (render ⟨components⟩) = components := by
      rw [Text.pieces, chars, List.map_map]
      exact (List.map_congr_left fun _ _ => String.ofList_toList).trans (List.map_id _)
    have some_text : render ⟨components⟩ ≠ "" := by
      intro nothing
      rw [nothing] at pieces
      have plain := plain "" (by rw [← pieces]; exact List.mem_cons_self)
      exact plain.nonempty rfl
    rw [written, if_neg some_text, pieces]

theorem intercalate_written (text : String) : "/".intercalate (written text) = text := by
  rw [written]
  split
  · next empty => rw [empty, String.intercalate_nil]
  · have joined := (Text.splitAll_eq_iff.mp (Eq.refl (Text.splitAll (· == '/') text.toList))).2.2
    have chars : (Text.pieces (· == '/') text).map String.toList =
        Text.splitAll (· == '/') text.toList := by
      rw [Text.pieces, List.map_map]
      exact (List.map_congr_left fun _ _ => String.toList_ofList).trans (List.map_id _)
    rw [← String.toList_inj, String.toList_intercalate, chars]
    exact joined

theorem mem_toList_iff {text : String} {char : Char} (no_slash : char ≠ '/') :
    char ∈ text.toList ↔ ∃ component ∈ written text, char ∈ component.toList := by
  have joined : ['/'].intercalate ((written text).map String.toList) = text.toList := by
    rw [← congrArg String.toList (intercalate_written text), String.toList_intercalate]
    rfl
  rw [← joined, Text.mem_intercalate_iff no_slash]
  constructor
  · rintro ⟨_, among, inside⟩
    rcases List.mem_map.mp among with ⟨component, member, rfl⟩
    exact ⟨component, member, inside⟩
  · rintro ⟨component, member, inside⟩
    exact ⟨component.toList, List.mem_map_of_mem member, inside⟩

theorem slash_not_mem_of_written {text component : String} (member : component ∈ written text) :
    '/' ∉ component.toList := by
  rw [written] at member
  split at member
  · cases member
  · rcases List.mem_map.mp member with ⟨chars, cut, rfl⟩
    rw [String.toList_ofList]
    intro slash
    simpa using Text.unseparated_of_mem_splitAll cut '/' slash

/-- A slash at an end of a text leaves an empty component there. -/
theorem empty_mem_written {text : String} {front rest : List Char}
    (parts : text.toList = front ++ '/' :: rest) (at_end : front = [] ∨ rest = []) :
    "" ∈ written text := by
  have some_text : text ≠ "" := by
    rintro rfl
    simp at parts
  rw [written, if_neg some_text, Text.pieces, parts, Text.splitAll_append_cons _ _ (by decide)]
  rcases at_end with rfl | rfl <;> simp [Text.splitAll]

theorem isNormal_render (plain : path.Plain) : IsNormal path.render := by
  have proper : ∀ component ∈ written path.render, IsPlain component := by
    rw [written_render plain]
    exact plain
  refine ⟨?_, ?_, ?_, ?_⟩
  · intro backslash
    rcases (mem_toList_iff (by decide)).mp backslash with ⟨component, member, inside⟩
    cases (proper component member).unseparated _ inside
  · intro head
    rcases List.head?_eq_some_iff.mp head with ⟨rest, parts⟩
    have parts : path.render.toList = [] ++ '/' :: rest := parts
    exact (proper "" (empty_mem_written parts (.inl rfl))).nonempty rfl
  · intro last
    rcases List.getLast?_eq_some_iff.mp last with ⟨front, parts⟩
    exact (proper "" (empty_mem_written parts (.inr rfl))).nonempty rfl
  · intro component member
    have plain := proper component member
    exact ⟨plain.nonempty, plain.not_here, plain.not_up⟩

theorem IsNormal.normalize_eq {text : String} (normal : IsNormal text) : normalize text = text := by
  have plain : Plain ⟨written text⟩ := by
    intro component member
    rcases normal.proper component member with ⟨nonempty, not_here, not_up⟩
    refine ⟨nonempty, not_here, not_up, ?_⟩
    intro char inside
    have not_slash : char ≠ '/' := fun slash => slash_not_mem_of_written member (slash ▸ inside)
    have not_backslash : char ≠ '\\' := fun backslash =>
      normal.no_backslash ((mem_toList_iff (by decide)).mpr ⟨component, member, backslash ▸ inside⟩)
    simp [isSeparator, not_slash, not_backslash]
  have spelled : render ⟨written text⟩ = text := intercalate_written text
  rw [← spelled, normalize, parse_render plain]

/-! ## Spellings of one path -/

theorem parse_append (front rest : String) :
    parse (front ++ "/" ++ rest) = (parse front).extend rest :=
  extend_append root front rest

theorem splitAll_withSlashes (chars : List Char) :
    Text.splitAll isSeparator (chars.map fun char => if char = '\\' then '/' else char) =
      Text.splitAll isSeparator chars := by
  induction chars with
  | nil => rfl
  | cons char rest ih =>
      by_cases backslash : char = '\\'
      · simp [Text.splitAll, isSeparator, backslash, ih]
      · simp [Text.splitAll, backslash, ih]

theorem extend_withSlashes (path : VirtualPath) (text : String) :
    path.extend (withSlashes text) = path.extend text := by
  rw [extend, extend, Text.pieces, withSlashes, String.toList_map, splitAll_withSlashes,
    Text.pieces]

/-- Two spellings lead to the same path exactly if their normal spellings agree. -/
theorem normalize_eq_iff {left right : String} :
    normalize left = normalize right ↔ parse left = parse right := by
  constructor
  · intro same
    rw [← parse_normalize left, same, parse_normalize]
  · exact congrArg render

/-- A component that is not followed may be written anywhere among the others. -/
theorem normalize_idle {idle : String} (nowhere : idle = "" ∨ idle = ".")
    (before after : List String) :
    normalize ("/".intercalate (before ++ idle :: after)) =
      normalize ("/".intercalate (before ++ after)) := by
  simp only [normalize, parse, extend_intercalate, List.foldl_append, List.foldl_cons,
    extend_of_idle nowhere]

theorem parse_up (text : String) : parse (text ++ "/..") = (parse text).parent := by
  have slash : "/.." = "/" ++ ".." := rfl
  rw [slash, ← String.append_assoc, parse_append, extend_up]

theorem normalize_up (text : String) :
    normalize (text ++ "/..") = "/".intercalate (written (normalize text)).dropLast := by
  rw [normalize, parse_up, normalize, written_render (plain_parse text)]
  rfl

theorem normalize_in_and_up {component : String} (plain : IsPlain component) (text : String) :
    normalize (text ++ "/" ++ component ++ "/..") = normalize text := by
  rw [normalize, parse_up, parse_append, extend_of_plain plain, parent, List.dropLast_concat]
  rfl

/--
The normal spelling of a written path is in normal form, is the same for all spellings of the
path, and can stand for what was written wherever more is written behind it. Backslashes, leading
slashes and components that are not followed make no difference; a component and the step up
behind it cancel each other, and a step up drops the last component or stays at the root.
-/
theorem normalize_canonical (text more : String) :
    normalize (text ++ "/" ++ more) = normalize (normalize text ++ "/" ++ more) ∧
    normalize (normalize text) = normalize text ∧
    IsNormal (normalize text) ∧
    (IsNormal text → normalize text = text) ∧
    (normalize text = normalize more ↔ parse text = parse more) ∧
    normalize (withSlashes text) = normalize text ∧
    normalize ("/" ++ text) = normalize text ∧
    (∀ idle before after, idle = "" ∨ idle = "." →
      normalize ("/".intercalate (before ++ idle :: after)) =
        normalize ("/".intercalate (before ++ after))) ∧
    (∀ component, IsPlain component →
      normalize (text ++ "/" ++ component ++ "/..") = normalize text) ∧
    normalize (text ++ "/..") = "/".intercalate (written (normalize text)).dropLast := by
  refine ⟨?_, ?_, isNormal_render (plain_parse text), IsNormal.normalize_eq, normalize_eq_iff, ?_,
    ?_, fun _ before after nowhere => normalize_idle nowhere before after,
    fun _ plain => normalize_in_and_up plain text, normalize_up text⟩
  · rw [normalize_eq_iff, parse_append, parse_append, parse_normalize]
  · rw [normalize_eq_iff, parse_normalize]
  · rw [normalize_eq_iff]
    exact extend_withSlashes root text
  · rw [normalize_eq_iff, ← String.empty_append (s := "/"), parse_append]
    rfl

example : normalize "/../a//b/../c\\.\\d/" = "a/c/d" := by decide +kernel

end Typeset.VirtualPath
