import Typeset.HostPath
import Typeset.Proofs.VirtualPath
import Mathlib.Data.List.TakeWhile

/-!
# Paths below a directory

A path of the disk that is continued by a plain component goes down into a directory of that
name: it does not start anew, stay where it is or climb. So a path that is continued by plain
components lies below the path that it starts from, and is told by these components.
-/

namespace Typeset.HostPath

open VirtualPath

/-- A path continued by written paths, one after another. -/
def descend (path : HostPath) (texts : List String) : HostPath :=
  texts.foldl (fun reached text => reached.join (.parse text)) path

/-- A path starts with another one and goes on from there without a step up. -/
structure LiesWithin (path root : HostPath) : Prop where
  same_anchor : path.anchor = root.anchor
  continues : ∃ components, path.components = root.components ++ components ∧ ".." ∉ components

variable {path root : HostPath} {components : List String}

theorem parse_of_plain {component : String} (plain : IsPlain component) :
    parse component = ofComponents [component] := by
  have no_slash : ∀ char ∈ component.toList, (char == '/') = false := by
    intro char inside
    have unseparated := plain.unseparated char inside
    simp only [isSeparator, Bool.or_eq_false_iff] at unseparated
    exact unseparated.1
  have relative : Anchor.ofText component.toList = .relative := by
    have nothing : component.toList.takeWhile (· == '/') = [] :=
      List.takeWhile_eq_nil_iff.mpr fun _ => by simp [no_slash]
    rw [Anchor.ofText, nothing]
    rfl
  have whole : Text.pieces (· == '/') component = [component] := by
    rw [Text.pieces, Text.splitAll_of_unseparated no_slash, List.map_singleton,
      String.ofList_toList]
  have kept : [component].filter (fun piece => piece ≠ "" ∧ piece ≠ ".") = [component] := by
    simp [plain.nonempty, plain.not_here]
  rw [parse, relative, whole, kept, ofComponents]

theorem join_of_plain {component : String} (plain : IsPlain component) (path : HostPath) :
    path.join (.parse component) = path.append [component] := by
  rw [parse_of_plain plain]
  rfl

/-- Plain components lead down one after another. -/
theorem descend_of_plain (plain : ∀ component ∈ components, IsPlain component) (path : HostPath) :
    path.descend components = path.append components := by
  induction components generalizing path with
  | nil => rw [append, List.append_nil]; rfl
  | cons component components ih =>
      rw [List.forall_mem_cons] at plain
      have next : path.descend (component :: components) =
          (path.join (.parse component)).descend components := rfl
      rw [next, join_of_plain plain.1, ih plain.2, append, append, append, List.append_assoc,
        List.singleton_append]

theorem liesWithin_append (plain : ∀ component ∈ components, IsPlain component)
    (root : HostPath) : (root.append components).LiesWithin root where
  same_anchor := rfl
  continues := ⟨components, rfl, fun up => (plain ".." up).not_up rfl⟩

theorem append_inj {left right : List String} :
    root.append left = root.append right ↔ left = right := by
  constructor
  · intro same
    exact List.append_cancel_left (congrArg HostPath.components same)
  · exact congrArg root.append

end Typeset.HostPath
