import Typeset.CommandLine.Run
import Typeset.Proofs.Text.Split

/-!
# The bindings of a command

A text binds a key to a value if it is the key and the value with an equals sign between
them, the first one in the text, and the key is not empty. The library of a session gives a
key the value that the last text binds it to.
-/

namespace Typeset

variable {key value : String} {inputs : List (String × String)}

/-! ## Inputs of a world -/

theorem World.find?_bind (key value other : String) (inputs : List (String × String)) :
    (World.bind key value inputs).find? (·.1 == other) =
      if key = other then some (key, value) else inputs.find? (·.1 == other) := by
  induction inputs with
  | nil =>
      rw [World.bind, List.find?_cons, List.find?_nil]
      by_cases same : key = other
      · simp [same]
      · simp [same, beq_eq_false_iff_ne.mpr same]
  | cons entry inputs ih =>
      rw [World.bind]
      split
      · next taken =>
          by_cases same : key = other
          · simp [same]
          · have passed : entry.1 ≠ other := fun equal => same (taken.symm.trans equal)
            simp [same, passed]
      · next free =>
          by_cases here : entry.1 = other
          · have different : key ≠ other := fun equal => free (here.trans equal.symm)
            simp [here, different]
          · simp only [List.find?_cons, beq_eq_false_iff_ne.mpr here, ih]

/-- The inputs that some bindings make of others. -/
def World.bindAll (bindings inputs : List (String × String)) : List (String × String) :=
  bindings.foldl (fun inputs (key, value) => World.bind key value inputs) inputs

/-- A key has the value of its last binding, or the one that it had before. -/
theorem World.find?_bindAll (bindings inputs : List (String × String)) (key : String) :
    (World.bindAll bindings inputs).find? (·.1 == key) =
      (bindings.reverse.find? (·.1 == key)).or (inputs.find? (·.1 == key)) := by
  induction bindings generalizing inputs with
  | nil => rfl
  | cons binding bindings ih =>
      rcases binding with ⟨name, value⟩
      rw [World.bindAll, List.foldl_cons, ← World.bindAll, ih, World.find?_bind, List.reverse_cons,
        List.find?_append, Option.or_assoc]
      by_cases same : name = key
      · simp [same]
      · simp [same, beq_eq_false_iff_ne.mpr same]

namespace CommandLine

/-! ## Texts that bind -/

/-- A text binds a key to a value. -/
structure Binds (text key value : String) : Prop where
  split : text.toList = key.toList ++ '=' :: value.toList
  first : '=' ∉ key.toList
  named : key ≠ ""

theorem readBinding_eq_some_iff {text : String} :
    readBinding text = some (key, value) ↔ Binds text key value := by
  constructor
  · intro read
    rw [readBinding] at read
    split at read
    · next first rest after found =>
        cases read
        rcases Text.splitFirst?_eq_some_iff.mp found with ⟨split, absent⟩
        refine ⟨?_, ?_, ?_⟩
        · simpa using split
        · simpa using absent
        · intro empty
          have nothing := congrArg String.toList empty
          simp at nothing
    · cases read
  · rintro ⟨split, first, named⟩
    have found := Text.splitFirst?_eq_some_iff.mpr ⟨split, first⟩
    rw [readBinding, found]
    cases chars : key.toList with
    | nil => exact absurd (String.toList_eq_nil_iff.mp chars) named
    | cons char rest =>
        simp only [Option.some.injEq, Prod.mk.injEq]
        exact ⟨by rw [← chars, String.ofList_toList], String.ofList_toList⟩

theorem map_some_of_readBindings {texts : List String} {bindings : List (String × String)}
    (read : readBindings texts = .ok bindings) : texts.map readBinding = bindings.map some := by
  induction texts generalizing bindings with
  | nil =>
      cases read
      rfl
  | cons text texts ih =>
      rw [readBindings] at read
      cases one : readBinding text with
      | none =>
          rw [one] at read
          cases read
      | some binding =>
          rw [one] at read
          cases others : readBindings texts with
          | error refused =>
              rw [others] at read
              cases read
          | ok more =>
              rw [others] at read
              cases read
              rw [List.map_cons, List.map_cons, one, ih others]

/-- Some text binds a key to a value, and no later text binds the key. -/
def LastBinds (texts : List String) (key value : String) : Prop :=
  ∃ before text after, texts = before ++ text :: after ∧ Binds text key value ∧
    ∀ later ∈ after, ∀ other, ¬Binds later key other

theorem find?_reverse_eq_some_iff {texts : List String} {bindings : List (String × String)}
    (read : texts.map readBinding = bindings.map some) :
    bindings.reverse.find? (·.1 == key) = some (key, value) ↔ LastBinds texts key value := by
  rw [List.find?_eq_some_iff_append]
  constructor
  · rintro ⟨_, later, earlier, split, passed⟩
    have whole : bindings = earlier.reverse ++ (key, value) :: later.reverse := by
      rw [← List.reverse_reverse bindings, split]
      simp
    rw [whole, List.map_append, List.map_cons] at read
    rcases List.map_eq_append_iff.mp read with ⟨before, rest, rfl, _, here⟩
    rcases List.map_eq_cons_iff.mp here with ⟨text, after, rfl, reads, others⟩
    refine ⟨before, text, after, rfl, readBinding_eq_some_iff.mp reads, ?_⟩
    intro text member other binds
    have listed : some (key, other) ∈ later.reverse.map some := by
      rw [← others, ← readBinding_eq_some_iff.mpr binds]
      exact List.mem_map_of_mem member
    rcases List.mem_map.mp listed with ⟨_, isLater, same⟩
    cases same
    simpa using passed _ (List.mem_reverse.mp isLater)
  · rintro ⟨before, text, after, rfl, binds, last⟩
    rw [List.map_append, List.map_cons, readBinding_eq_some_iff.mpr binds] at read
    rcases List.map_eq_append_iff.mp read.symm with ⟨earlier, rest, rfl, _, here⟩
    rcases List.map_eq_cons_iff.mp here with ⟨binding, later, rfl, same, others⟩
    cases same
    refine ⟨by simp, later.reverse, earlier.reverse, by simp, ?_⟩
    rintro ⟨name, other⟩ member
    have listed : some (name, other) ∈ after.map readBinding := by
      rw [← others]
      exact List.mem_map_of_mem (List.mem_reverse.mp member)
    rcases List.mem_map.mp listed with ⟨text, isLater, reads⟩
    simp only [Bool.not_eq_true', beq_eq_false_iff_ne]
    rintro rfl
    exact last text isLater other (readBinding_eq_some_iff.mp reads)

/-- A library with the bindings of some texts gives a key what the last text binds it to. -/
theorem input?_eq_some_iff {texts : List String} {bindings : List (String × String)}
    (read : readBindings texts = .ok bindings) (features : List String) :
    Library.input? ⟨World.bindAll bindings [], features⟩ key = some value ↔
      LastBinds texts key value := by
  rw [← find?_reverse_eq_some_iff (map_some_of_readBindings read), Library.input?,
    World.find?_bindAll, List.find?_nil, Option.or_none, Option.map_eq_some_iff]
  constructor
  · rintro ⟨⟨name, bound⟩, found, rfl⟩
    have same := List.find?_some found
    simp only [beq_iff_eq] at same
    rw [found, same]
  · intro found
    exact ⟨_, found, rfl⟩

end CommandLine

end Typeset
