import Typeset.Proofs.Overlay
import Typeset.Proofs.VirtualPath
import Typeset.FileId

/-!
# Paths joined to a file

A path that is written in a file starts at the root if it begins with a slash, and at the
directory of the file otherwise. Only the slash itself counts there, while everywhere else a
backslash counts as one. So a path that begins with a backslash starts at the directory, and the
same path with slashes at the root. The two agree only if the path climbs over the whole
directory.
-/

namespace Typeset.FileId

open VirtualPath

/-- The file that a path names from the root, among the files that can be named from a file. -/
def addressed (id : FileId) (path : String) : FileId :=
  ⟨id.neighbours, .parse path⟩

/-- A path passes over the whole directory of the file that it is written in. -/
def ClimbsOut (id : FileId) (path : String) : Prop :=
  id.path.parent.components.length ≤ climbs (Text.pieces isSeparator path)

variable {id : FileId} {path : String}

theorem addressed_withSlashes (id : FileId) (path : String) :
    id.addressed (withSlashes path) = id.addressed path :=
  congrArg (FileId.mk id.neighbours) (extend_withSlashes root path)

theorem join_of_slash (slash : path.toList.head? = some '/') :
    id.join path = id.addressed path := by
  rw [join, if_pos slash, addressed]

theorem join_of_no_slash (no_slash : path.toList.head? ≠ some '/') :
    id.join path = ⟨id.neighbours, id.path.parent.extend path⟩ := by
  rw [join, if_neg no_slash]

theorem join_eq_addressed_iff :
    id.join path = id.addressed path ↔ path.toList.head? = some '/' ∨ id.ClimbsOut path := by
  by_cases slash : path.toList.head? = some '/'
  · exact iff_of_true (join_of_slash slash) (.inl slash)
  · rw [join_of_no_slash slash, or_iff_right slash, ClimbsOut, ← extend_eq_parse_iff]
    exact ⟨congrArg FileId.path, congrArg (FileId.mk id.neighbours)⟩

theorem head?_withSlashes (path : String) :
    (withSlashes path).toList.head? = some '/' ↔
      path.toList.head? = some '/' ∨ path.toList.head? = some '\\' := by
  rw [withSlashes, String.toList_map, List.head?_map]
  cases path.toList.head? with
  | none => simp
  | some first =>
      by_cases backslash : first = '\\'
      · simp [backslash]
      · simp [backslash]

theorem join_withSlashes_of_separator
    (first : path.toList.head? = some '/' ∨ path.toList.head? = some '\\') :
    id.join (withSlashes path) = id.addressed path := by
  rw [join_of_slash ((head?_withSlashes path).mpr first), addressed_withSlashes]

theorem join_withSlashes_of_no_separator
    (first : ¬(path.toList.head? = some '/' ∨ path.toList.head? = some '\\')) :
    id.join (withSlashes path) = id.join path := by
  rw [join_of_no_slash (mt (head?_withSlashes path).mp first),
    join_of_no_slash fun slash => first (.inl slash), extend_withSlashes]

theorem join_withSlashes_eq_iff :
    id.join (withSlashes path) = id.join path ↔
      (path.toList.head? = some '\\' → id.ClimbsOut path) := by
  by_cases first : path.toList.head? = some '/' ∨ path.toList.head? = some '\\'
  · rw [join_withSlashes_of_separator first, eq_comm, join_eq_addressed_iff]
    rcases first with slash | backslash
    · have no_backslash : path.toList.head? ≠ some '\\' := by simp [slash]
      exact iff_of_true (.inl slash) fun backslash => absurd backslash no_backslash
    · simp [backslash]
  · exact iff_of_true (join_withSlashes_of_no_separator first)
      fun backslash => absurd (.inr backslash) first

theorem lookup_set_join (overlay : Overlay) (content : Bytes) (other : FileId)
    (project : other.origin = .project) :
    (overlay.set path content).lookup other =
      if other.path = .parse path then some content else overlay.lookup other := by
  rcases other with ⟨origin, target⟩
  cases project
  exact Overlay.find?_set overlay path content target

/--
A path and the same path with slashes are joined to the same file, except when the path begins
with a backslash and does not climb over the whole directory of the file that it is written in.
With slashes, a path that begins with a separator always names what it spells from the root, and
so it finds the virtual file that was set under the text. As it is written, a path does so exactly
if it begins with a slash or climbs over the whole directory.
-/
theorem joined_alike_iff (id : FileId) (path : String) :
    (id.join (withSlashes path) = id.join path ↔
      (path.toList.head? = some '\\' → id.ClimbsOut path)) ∧
    (id.join path = id.addressed path ↔ path.toList.head? = some '/' ∨ id.ClimbsOut path) ∧
    (path.toList.head? = some '/' ∨ path.toList.head? = some '\\' →
      id.join (withSlashes path) = id.addressed path) ∧
    (∀ (overlay : Overlay) (content : Bytes),
      id.neighbours = .project → path.toList.head? = some '\\' →
      (overlay.set path content).lookup (id.join (withSlashes path)) = some content ∧
      (¬id.ClimbsOut path →
        (overlay.set path content).lookup (id.join path) = overlay.lookup (id.join path))) := by
  refine ⟨join_withSlashes_eq_iff, join_eq_addressed_iff, join_withSlashes_of_separator, ?_⟩
  intro overlay content project backslash
  refine ⟨?_, fun inside => ?_⟩
  · rw [join_withSlashes_of_separator (.inr backslash), lookup_set_join overlay content _ project]
    exact if_pos rfl
  · have no_slash : path.toList.head? ≠ some '/' := by simp [backslash]
    rw [lookup_set_join overlay content _ project, if_neg]
    intro same
    have addressed : id.join path = id.addressed path := congrArg (FileId.mk id.neighbours) same
    exact (join_eq_addressed_iff.mp addressed).elim no_slash inside

/-- The leading backslash of an import is not taken for the root. -/
theorem joined_apart_at_backslash :
    (project "a/b.typ").join "\\c.typ" = project "a/c.typ" ∧
    (project "a/b.typ").join (withSlashes "\\c.typ") = project "c.typ" ∧
    (project "a/b.typ").join "\\c.typ" ≠ (project "a/b.typ").join (withSlashes "\\c.typ") := by
  decide +kernel

end Typeset.FileId
