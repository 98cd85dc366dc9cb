import Typeset.Overlay

/-!
# Histories of virtual files

Virtual files are set, appended to and cleared under any spelling of their paths.
What there is at a path is told by the changes of the path since it was last cleared:
nothing when there are none, and otherwise the content that was set last, followed by
all that was appended afterwards.

Histories list changes with the newest first.
-/

namespace Typeset.Overlay

/-- A change of virtual files, under a path as it is written. -/
inductive Change where
  | set (path : String) (content : Bytes)
  | append (path : String) (content : Bytes)
  | clear (path : String)

namespace Change

/-- The path that a change is about, however it is spelled. -/
def path : Change → VirtualPath
  | set path _ | append path _ | clear path => .parse path

def clears : Change → Bool
  | clear _ => true
  | _ => false

def set? : Change → Option Bytes
  | set _ content => some content
  | _ => none

def appended? : Change → Option Bytes
  | append _ content => some content
  | _ => none

end Change

def change (overlay : Overlay) : Change → Overlay
  | .set path content => overlay.set path content
  | .append path content => overlay.append path content
  | .clear path => overlay.clear path

def after : List Change → Overlay
  | [] => empty
  | latest :: past => (after past).change latest

/-- The changes of a path since it was last cleared. -/
def recent (path : VirtualPath) (changes : List Change) : List Change :=
  (changes.filter (·.path = path)).takeWhile (!·.clears)

/-- The content that was set last, and all that was appended afterwards, in order. -/
def written (changes : List Change) : Bytes :=
  (changes.findSome? Change.set?).getD [] ++
    ((changes.takeWhile (·.set?.isNone)).reverse.filterMap Change.appended?).flatten

/-- The virtual file at a path that a history tells of. -/
def told? (path : VirtualPath) (changes : List Change) : Option Bytes :=
  match recent path changes with
  | [] => none
  | recent => some (written recent)

/-! ## One change -/

theorem find?_putIn (path other : VirtualPath) (content : Bytes)
    (files : List (VirtualPath × Bytes)) :
    ((putIn path content files).find? (·.1 == other)).map (·.2) =
      if other = path then some content else (files.find? (·.1 == other)).map (·.2) := by
  induction files with
  | nil =>
      by_cases same : other = path
      · simp [putIn, same]
      · simp [putIn, same, Ne.symm same]
  | cons file files ih =>
      by_cases here : file.1 = path
      · by_cases same : other = path
        · simp [putIn, here, same]
        · simp [putIn, here, same, Ne.symm same]
      · by_cases wanted : file.1 = other
        · have different : other ≠ path := fun same => here (wanted.trans same)
          simp [putIn, wanted, different]
        · simp [putIn, here, wanted, ih]

theorem find?_set (overlay : Overlay) (written : String) (content : Bytes) (path : VirtualPath) :
    (overlay.set written content).find? path =
      if path = .parse written then some content else overlay.find? path := by
  simp only [set, find?, find?_putIn]

theorem find?_append (overlay : Overlay) (written : String) (content : Bytes)
    (path : VirtualPath) :
    (overlay.append written content).find? path =
      if path = .parse written then some ((overlay.find? path).getD [] ++ content)
      else overlay.find? path := by
  simp only [append, find?, find?_putIn]
  split
  · next same => simp only [same]
  · rfl

theorem find?_clear (overlay : Overlay) (written : String) (path : VirtualPath) :
    (overlay.clear written).find? path =
      if path = .parse written then none else overlay.find? path := by
  simp only [clear, find?, List.find?_filter]
  split
  · next same =>
      simp only [Option.map_eq_none_iff, List.find?_eq_none]
      intro file _
      simp [same]
  · next different =>
      congr 2
      funext file
      by_cases wanted : file.1 = path
      · simp [wanted, different]
      · simp [wanted]

theorem find?_change_of_ne {path : VirtualPath} {latest : Change} (other : latest.path ≠ path)
    (overlay : Overlay) : (overlay.change latest).find? path = overlay.find? path := by
  cases latest with
  | set spelling content => exact (find?_set _ _ _ _).trans (if_neg other.symm)
  | append spelling content => exact (find?_append _ _ _ _).trans (if_neg other.symm)
  | clear spelling => exact (find?_clear _ _ _).trans (if_neg other.symm)

/-! ## Histories -/

theorem recent_cons_of_ne {path : VirtualPath} {latest : Change} (other : latest.path ≠ path)
    (past : List Change) : recent path (latest :: past) = recent path past := by
  simp [recent, other]

theorem recent_cons_of_clears {path : VirtualPath} {latest : Change} (same : latest.path = path)
    (clears : latest.clears = true) (past : List Change) : recent path (latest :: past) = [] := by
  simp [recent, same, clears]

theorem recent_cons_of_writes {path : VirtualPath} {latest : Change} (same : latest.path = path)
    (writes : latest.clears = false) (past : List Change) :
    recent path (latest :: past) = latest :: recent path past := by
  simp [recent, same, writes]

theorem written_cons_set (path : String) (content : Bytes) (past : List Change) :
    written (.set path content :: past) = content := by
  simp [written, List.findSome?_cons, Change.set?]

theorem written_cons_append (path : String) (content : Bytes) (past : List Change) :
    written (.append path content :: past) = written past ++ content := by
  simp [written, List.findSome?_cons, Change.set?, Change.appended?]

theorem getD_told? (path : VirtualPath) (changes : List Change) :
    (told? path changes).getD [] = written (recent path changes) := by
  simp only [told?]
  split
  · next nothing =>
      simp only [nothing]
      rfl
  · rfl

theorem told?_of_recent_eq_cons {path : VirtualPath} {changes past : List Change}
    {latest : Change} (recently : recent path changes = latest :: past) :
    told? path changes = some (written (latest :: past)) := by
  simp only [told?, recently]

/-- The virtual file at a path is the one that the history tells of. -/
theorem find?_after (path : VirtualPath) (changes : List Change) :
    (after changes).find? path = told? path changes := by
  induction changes with
  | nil => rfl
  | cons latest past ih =>
      by_cases same : latest.path = path
      · cases latest with
        | set spelling content =>
            rw [told?_of_recent_eq_cons (recent_cons_of_writes same rfl past), written_cons_set]
            exact (find?_set _ _ _ _).trans (if_pos same.symm)
        | append spelling content =>
            rw [told?_of_recent_eq_cons (recent_cons_of_writes same rfl past),
              written_cons_append, ← getD_told?, ← ih]
            exact (find?_append _ _ _ _).trans (if_pos same.symm)
        | clear spelling =>
            rw [told?, recent_cons_of_clears same rfl]
            exact (find?_clear _ _ _).trans (if_pos same.symm)
      · simp only [after, find?_change_of_ne same, ih, told?, recent_cons_of_ne same]

/-- Only clearing a path takes the virtual file there away. -/
theorem isSome_find?_change {overlay : Overlay} {path : VirtualPath}
    (present : (overlay.find? path).isSome) {latest : Change} (keeps : latest.clears = false) :
    ((overlay.change latest).find? path).isSome := by
  cases latest with
  | set spelling content =>
      simp only [change, find?_set]
      split
      · rfl
      · exact present
  | append spelling content =>
      simp only [change, find?_append]
      split
      · rfl
      · exact present
  | clear spelling => cases keeps

end Typeset.Overlay
