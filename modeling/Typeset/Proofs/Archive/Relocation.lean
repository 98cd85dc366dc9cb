import Typeset.Proofs.Archive
import Typeset.Proofs.Disk.Links

/-!
# Extraction does not depend on the place

Two directories that are filled from the same archive hold the same at every step, wherever
they are, as long as no path in the one is too long in the other. What an archive extracts
to is therefore what it extracts to in a directory of its own, on a disk with nothing else.
-/

namespace Typeset

theorem HostPath.parent_append_nil (path : HostPath) (name : String) :
    ((path.append [name]).append []).parent = path := by
  simp [append, parent]

theorem HostPath.parent_append_concat (path : HostPath) (front : List String) (last : String) :
    (path.append (front ++ [last])).parent = path.append front := by
  simp [append, parent, ← List.append_assoc]

theorem ArchiveData.makeMissing_of_leadsAnywhere {disk : Disk} {path : HostPath}
    (above : disk.leadsAnywhere path.parent = .ok true) (levels : Nat) :
    makeMissing disk path levels = disk.makeDirectory path := by
  cases levels with
  | zero => rfl
  | succ levels => simp only [makeMissing, above]

theorem ArchiveData.makeMissing_of_missing {disk : Disk} {path : HostPath}
    (missing : disk.leadsAnywhere path.parent ≠ .ok true) (levels : Nat) :
    makeMissing disk path (levels + 1) =
      match makeMissing disk path.parent levels with
      | .ok disk => disk.makeDirectory path
      | .error .alreadyExists => disk.makeDirectory path
      | .error fault => .error fault := by
  rw [makeMissing]
  cases looked : disk.leadsAnywhere path.parent with
  | error fault => rfl
  | ok found =>
      cases found with
      | true => exact absurd looked missing
      | false => rfl

/-- Whatever is put at a path, the path has been walked along. -/
theorem ArchiveData.walkable_of_putMember {disk made : Disk} {path : HostPath}
    {content : Option Bytes} (done : putMember disk path content = .ok made) : path.Walkable := by
  cases content with
  | some content =>
      rcases Disk.write_eq_ok_iff.mp done with ⟨place, found, _⟩
      exact Disk.walkable_of_locate found
  | none =>
      simp only [putMember] at done
      cases found : disk.locate path ⟨false, true⟩ with
      | ok place => exact Disk.walkable_of_locate found
      | error fault =>
          have refused : disk.makeDirectory path = .error fault := by
            simp only [Disk.makeDirectory, found, bind, Except.bind]
          rw [refused] at done
          cases fault
          case alreadyExists =>
            rcases Disk.locate_error found with absent | long
            · cases absent
            · cases long
          all_goals cases done

namespace Disk

open ArchiveData (staysWithin staysInside)

/-- Two directories that are filled, each in its place, and hold the same. -/
structure Twins (leftReady rightReady left right : Disk) (leftRoot rightRoot : Place) : Prop where
  leftFilling : Filling leftReady left leftRoot
  rightFilling : Filling rightReady right rightRoot
  same : ∀ inner, left.entry? (leftRoot ++ inner) = right.entry? (rightRoot ++ inner)

/-- Two operations are refused for the same reason, or both are done and end in twins. -/
inductive EndAlike {ε : Type} (related : Disk → Disk → Prop) : Except ε Disk → Except ε Disk → Prop
  | refused (fault : ε) : EndAlike related (.error fault) (.error fault)
  | done {left right : Disk} (twins : related left right) : EndAlike related (.ok left) (.ok right)

theorem EndAlike.bind {ε : Type} {related : Disk → Disk → Prop} {first second : Except ε Disk}
    {next after : Disk → Except ε Disk} (alike : EndAlike related first second)
    (onward : ∀ left right, related left right → EndAlike related (next left) (after right)) :
    EndAlike related (first.bind next) (second.bind after) := by
  cases alike with
  | refused fault => exact .refused fault
  | done twins => exact onward _ _ twins

variable {leftReady rightReady left right made : Disk} {leftRoot rightRoot inner : Place}
  {names : List String} {content : Bytes}

namespace Twins

/-- Walks along the same names inside of twins end alike. -/
theorem follow (twins : Twins leftReady rightReady left right leftRoot rightRoot)
    (stays : staysWithin inner.length names = true) (ending : PathEnd)
    (leftLinks rightLinks : Nat) :
    ∃ answer : Except DiskFault Place,
      left.follow ending leftLinks (leftRoot ++ inner) names = answer.map (leftRoot ++ ·) ∧
        right.follow ending rightLinks (rightRoot ++ inner) names =
          answer.map (rightRoot ++ ·) := by
  induction names generalizing inner with
  | nil => exact ⟨.ok inner, by rw [Disk.follow]; rfl, by rw [Disk.follow]; rfl⟩
  | cons name rest ih =>
      by_cases up : name = ".."
      · subst up
        simp only [staysWithin, Bool.and_eq_true, decide_eq_true_eq] at stays
        have deeper : inner ≠ [] := fun top => stays.1 (by rw [top, List.length_nil])
        have higher : staysWithin inner.dropLast.length rest = true := by
          simpa using stays.2
        rw [Disk.follow, if_pos rfl, if_neg (by simp [deeper]), Disk.follow, if_pos rfl,
          if_neg (by simp [deeper]), List.dropLast_append_of_ne_nil deeper,
          List.dropLast_append_of_ne_nil deeper]
        exact ih higher
      · rw [staysWithin_cons up] at stays
        by_cases long : maxNameLength < Text.Utf8.length name.toList
        · refine ⟨.error .nameTooLong, ?_, ?_⟩
          all_goals
            rw [Disk.follow, if_neg up, if_pos long]
            rfl
        · have same := twins.same (inner ++ [name])
          rw [Disk.follow, if_neg up, if_neg long, Disk.follow, if_neg up, if_neg long]
          simp only [List.append_assoc, same]
          cases there : right.entry? (rightRoot ++ (inner ++ [name])) with
          | none =>
              dsimp only
              split
              · exact ⟨.ok (inner ++ [name]), rfl, rfl⟩
              · exact ⟨.error .notFound, rfl, rfl⟩
          | some entry =>
              cases entry with
              | directory => exact ih (by simpa using stays)
              | file content =>
                  dsimp only
                  split
                  · exact ⟨.ok (inner ++ [name]), rfl, rfl⟩
                  · exact ⟨.error .notDirectory, rfl, rfl⟩
              | link target =>
                  exact absurd there (twins.rightFilling.noLinks _ _ (List.prefix_append _ _))

theorem put (twins : Twins leftReady rightReady left right leftRoot rightRoot) {entry : DiskEntry}
    (free : left.entry? (leftRoot ++ inner) ≠ some .directory)
    (noLink : ∀ target, entry ≠ .link target) :
    Twins leftReady rightReady (left.put (leftRoot ++ inner) entry)
      (right.put (rightRoot ++ inner) entry) leftRoot rightRoot := by
  have alsoFree : right.entry? (rightRoot ++ inner) ≠ some .directory := twins.same inner ▸ free
  refine ⟨twins.leftFilling.put (List.prefix_append _ _) free noLink,
    twins.rightFilling.put (List.prefix_append _ _) alsoFree noLink, ?_⟩
  intro other
  by_cases here : other = inner
  · subst here
    rw [entry?_put_self _ (by intro top; rw [top] at free; exact free (entry?_nil _)),
      entry?_put_self _ (by intro top; rw [top] at alsoFree; exact alsoFree (entry?_nil _))]
  · rw [entry?_put_of_ne _ (by simpa using here), entry?_put_of_ne _ (by simpa using here),
      twins.same other]

end Twins

/-- There is nothing yet in a fresh directory. -/
theorem FreshPlace.entry?_below {ready : Disk} {path : HostPath} {parent : Place} {name : String}
    (fresh : ready.FreshPlace path parent name) (rooted : ready.Rooted) (inner : Place) :
    entry? (ready.put (parent ++ [name]) .directory) (parent ++ [name] ++ inner) =
      if inner = [] then some .directory else none := by
  split
  · next top => rw [top, List.append_nil, entry?_put_self _ (ne_nil_of_absent fresh.absent)]
  · next deeper =>
      rw [entry?_put_of_ne _ (by simpa using deeper),
        rooted.absent_below fresh.absent (List.prefix_append _ _)]

/-! ## Twins by their paths -/

/-- The walk along a path in a directory that is filled starts in the directory. -/
theorem Filling.locate_eq_follow {ready disk : Disk} {path : HostPath} {parent : Place}
    {name : String} (filling : Filling ready disk (parent ++ [name]))
    (fresh : ready.FreshPlace path parent name)
    (walkable : ((path.append [name]).append names).Walkable) :
    ∃ links, ∀ ending, disk.locate ((path.append [name]).append names) ending =
      disk.follow ending links (parent ++ [name]) names := by
  have whole : (path.append [name]).append names = path.append (name :: names) := by
    simp [HostPath.append]
  rw [whole] at walkable ⊢
  rcases (leadsTo_above fresh filling).below walkable (List.cons_ne_nil _ _) with ⟨links, same⟩
  exact ⟨links, fun ending => by rw [same, follow_into fresh.nameable filling.there]⟩

section

variable {leftPath rightPath : HostPath} {leftParent rightParent : Place}
  {leftName rightName : String}

/-- Two fresh places, such that every path in the first is walkable in the second. -/
structure Relocates (leftReady rightReady : Disk) (leftPath rightPath : HostPath)
    (leftParent rightParent : Place) (leftName rightName : String) : Prop where
  leftFresh : leftReady.FreshPlace leftPath leftParent leftName
  rightFresh : rightReady.FreshPlace rightPath rightParent rightName
  shorter : ∀ names, ((leftPath.append [leftName]).append names).Walkable →
    ((rightPath.append [rightName]).append names).Walkable

namespace Twins

variable
  (places : Relocates leftReady rightReady leftPath rightPath leftParent rightParent leftName
    rightName)
  (twins : Twins leftReady rightReady left right (leftParent ++ [leftName])
    (rightParent ++ [rightName]))
  (walkable : ((leftPath.append [leftName]).append names).Walkable)
  (stays : staysWithin 0 names = true)

include places twins walkable stays

theorem locate (ending : PathEnd) :
    ∃ answer : Except DiskFault Place,
      left.locate ((leftPath.append [leftName]).append names) ending =
          answer.map (leftParent ++ [leftName] ++ ·) ∧
        right.locate ((rightPath.append [rightName]).append names) ending =
          answer.map (rightParent ++ [rightName] ++ ·) := by
  rcases twins.leftFilling.locate_eq_follow places.leftFresh walkable with ⟨leftLinks, leftSame⟩
  rcases twins.rightFilling.locate_eq_follow places.rightFresh (places.shorter _ walkable) with
    ⟨rightLinks, rightSame⟩
  have start : staysWithin ([] : Place).length names = true := stays
  have inside := twins.follow start ending leftLinks rightLinks
  rw [leftSame, rightSame]
  simpa using inside

theorem leadsAnywhere :
    left.leadsAnywhere ((leftPath.append [leftName]).append names) =
      right.leadsAnywhere ((rightPath.append [rightName]).append names) := by
  rcases locate places twins walkable stays ⟨true, false⟩ with ⟨answer, leftFound, rightFound⟩
  simp only [Disk.leadsAnywhere, holdsAt, stat, leftFound, rightFound]
  cases answer with
  | error fault => rfl
  | ok inner =>
      simp only [Except.map, bind, Except.bind, twins.same inner]
      cases right.entry? (rightParent ++ [rightName] ++ inner) <;> rfl

theorem makeDirectory :
    EndAlike (Twins leftReady rightReady · · (leftParent ++ [leftName])
        (rightParent ++ [rightName]))
      (left.makeDirectory ((leftPath.append [leftName]).append names))
      (right.makeDirectory ((rightPath.append [rightName]).append names)) := by
  rcases locate places twins walkable stays ⟨false, true⟩ with ⟨answer, leftFound, rightFound⟩
  simp only [Disk.makeDirectory, leftFound, rightFound]
  cases answer with
  | error fault => exact .refused fault
  | ok inner =>
      simp only [Except.map, bind, Except.bind, twins.same inner]
      cases there : right.entry? (rightParent ++ [rightName] ++ inner) with
      | some entry => exact .refused _
      | none =>
          have free := (twins.same inner).trans there
          exact .done (twins.put (by rw [free]; simp) (by simp))

theorem write (content : Bytes) :
    EndAlike (Twins leftReady rightReady · · (leftParent ++ [leftName])
        (rightParent ++ [rightName]))
      (left.write ((leftPath.append [leftName]).append names) content)
      (right.write ((rightPath.append [rightName]).append names) content) := by
  rcases locate places twins walkable stays ⟨true, true⟩ with ⟨answer, leftFound, rightFound⟩
  simp only [Disk.write, leftFound, rightFound]
  cases answer with
  | error fault => exact .refused fault
  | ok inner =>
      simp only [Except.map, bind, Except.bind, twins.same inner]
      cases there : right.entry? (rightParent ++ [rightName] ++ inner) with
      | none =>
          have free := (twins.same inner).trans there
          exact .done (twins.put (by rw [free]; simp) (by simp))
      | some entry =>
          have found := (twins.same inner).trans there
          cases entry with
          | directory => exact .refused _
          | file | link => exact .done (twins.put (by rw [found]; simp) (by simp))

/-- Above a path in twins something is found in both, or in neither. -/
theorem leadsAnywhere_parent :
    left.leadsAnywhere ((leftPath.append [leftName]).append names).parent =
      right.leadsAnywhere ((rightPath.append [rightName]).append names).parent := by
  rcases names.eq_nil_or_concat with rfl | ⟨front, last, rfl⟩
  · rw [HostPath.parent_append_nil, HostPath.parent_append_nil,
      (Filling.leadsTo_above places.leftFresh twins.leftFilling).leadsAnywhere,
      (Filling.leadsTo_above places.rightFresh twins.rightFilling).leadsAnywhere]
  · rw [List.concat_eq_append] at *
    rw [HostPath.parent_append_concat, HostPath.parent_append_concat]
    exact leadsAnywhere places twins walkable.of_append
      (staysWithin_of_start (List.prefix_append _ _) stays)

/-- Missing directories are made alike, from however far above. -/
theorem makeMissing {leftLevels rightLevels : Nat} (leftEnough : names.length ≤ leftLevels)
    (rightEnough : names.length ≤ rightLevels) :
    EndAlike (Twins leftReady rightReady · · (leftParent ++ [leftName])
        (rightParent ++ [rightName]))
      (ArchiveData.makeMissing left ((leftPath.append [leftName]).append names) leftLevels)
      (ArchiveData.makeMissing right ((rightPath.append [rightName]).append names)
        rightLevels) := by
  -- the directory itself is there, so no level above it is used
  induction names using List.reverseRecOn generalizing leftLevels rightLevels with
  | nil =>
      have above :
          left.leadsAnywhere ((leftPath.append [leftName]).append []).parent = .ok true := by
        rw [HostPath.parent_append_nil]
        exact (Filling.leadsTo_above places.leftFresh twins.leftFilling).leadsAnywhere
      have same := leadsAnywhere_parent places twins walkable stays
      rw [ArchiveData.makeMissing_of_leadsAnywhere above,
        ArchiveData.makeMissing_of_leadsAnywhere (same ▸ above)]
      exact makeDirectory places twins walkable stays
  | append_singleton front last ih =>
      have same := leadsAnywhere_parent places twins walkable stays
      by_cases above : left.leadsAnywhere
          ((leftPath.append [leftName]).append (front ++ [last])).parent = .ok true
      · rw [ArchiveData.makeMissing_of_leadsAnywhere above,
          ArchiveData.makeMissing_of_leadsAnywhere (same ▸ above)]
        exact makeDirectory places twins walkable stays
      · cases leftLevels with
        | zero => simp at leftEnough
        | succ leftLevels =>
            cases rightLevels with
            | zero => simp at rightEnough
            | succ rightLevels =>
                simp only [List.length_append, List.length_singleton, Nat.add_le_add_iff_right]
                  at leftEnough rightEnough
                have higher := ih walkable.of_append
                  (staysWithin_of_start (List.prefix_append _ _) stays) leftEnough rightEnough
                rw [ArchiveData.makeMissing_of_missing above,
                  ArchiveData.makeMissing_of_missing (same ▸ above),
                  HostPath.parent_append_concat, HostPath.parent_append_concat]
                generalize ArchiveData.makeMissing left _ _ = leftAbove at higher ⊢
                generalize ArchiveData.makeMissing right _ _ = rightAbove at higher ⊢
                cases higher with
                | refused fault =>
                    cases fault
                    case alreadyExists => exact makeDirectory places twins walkable stays
                    all_goals exact .refused _
                | done grown => exact makeDirectory places grown walkable stays

theorem withAbove :
    EndAlike (Twins leftReady rightReady · · (leftParent ++ [leftName])
        (rightParent ++ [rightName]))
      (ArchiveData.withAbove left ((leftPath.append [leftName]).append names))
      (ArchiveData.withAbove right ((rightPath.append [rightName]).append names)) := by
  have same := leadsAnywhere_parent places twins walkable stays
  by_cases above : left.leadsAnywhere ((leftPath.append [leftName]).append names).parent = .ok true
  · rw [ArchiveData.withAbove_of_leadsAnywhere above,
      ArchiveData.withAbove_of_leadsAnywhere (same ▸ above)]
    exact .done twins
  · rw [ArchiveData.withAbove_of_missing above, ArchiveData.withAbove_of_missing (same ▸ above)]
    rcases names.eq_nil_or_concat with rfl | ⟨front, last, rfl⟩
    · rw [HostPath.parent_append_nil] at above
      exact absurd (Filling.leadsTo_above places.leftFresh twins.leftFilling).leadsAnywhere above
    · rw [List.concat_eq_append] at *
      rw [HostPath.parent_append_concat, HostPath.parent_append_concat]
      apply makeMissing places twins walkable.of_append
        (staysWithin_of_start (List.prefix_append _ _) stays)
      all_goals
        simp only [HostPath.append, List.length_append]
        omega

theorem putMember (content : Option Bytes) :
    EndAlike (Twins leftReady rightReady · · (leftParent ++ [leftName])
        (rightParent ++ [rightName]))
      (ArchiveData.putMember left ((leftPath.append [leftName]).append names) content)
      (ArchiveData.putMember right ((rightPath.append [rightName]).append names) content) := by
  cases content with
  | some content => exact write places twins walkable stays content
  | none =>
      have made := makeDirectory places twins walkable stays
      simp only [ArchiveData.putMember]
      generalize left.makeDirectory _ = leftMade at made ⊢
      generalize right.makeDirectory _ = rightMade at made ⊢
      cases made with
      | refused fault =>
          cases fault
          case alreadyExists => exact .done twins
          all_goals exact .refused _
      | done grown => exact .done grown

omit walkable stays in
/-- A member that is extracted on the left is extracted alike on the right. -/
theorem extractMember {member : ArchiveMember} (inside : staysInside member = true)
    (extracted : ArchiveData.extractMember left (leftPath.append [leftName]) member = .ok made) :
    EndAlike (Twins leftReady rightReady · · (leftParent ++ [leftName])
        (rightParent ++ [rightName])) (.ok made)
      (ArchiveData.extractMember right (rightPath.append [rightName]) member) := by
  rw [staysInside] at inside
  rw [← extracted, ArchiveData.extractMember_eq, ArchiveData.extractMember_eq]
  rw [ArchiveData.extractMember_eq] at extracted
  generalize (HostPath.parse member.name).components = names at inside extracted ⊢
  cases above : ArchiveData.withAbove left ((leftPath.append [leftName]).append names) with
  | error fault =>
      rw [above] at extracted
      cases extracted
  | ok ready =>
      rw [above] at extracted
      have walkable := ArchiveData.walkable_of_putMember extracted
      rw [← above]
      exact (withAbove places twins walkable inside).bind fun _ _ grown =>
        putMember places grown walkable inside member.content

omit walkable stays in
/-- What is extracted on the left is extracted on the right, and the directories hold the same. -/
theorem extract {members : List ArchiveMember}
    (inside : ∀ member ∈ members, staysInside member = true)
    (extracted : ArchiveData.extract left (leftPath.append [leftName]) members = .ok made) :
    ∃ alsoMade, ArchiveData.extract right (rightPath.append [rightName]) members = .ok alsoMade ∧
      Twins leftReady rightReady made alsoMade (leftParent ++ [leftName])
        (rightParent ++ [rightName]) := by
  induction members generalizing left right with
  | nil =>
      cases extracted
      exact ⟨right, rfl, twins⟩
  | cons member members ih =>
      rcases List.forall_mem_cons.mp inside with ⟨first, others⟩
      simp only [ArchiveData.extract] at extracted ⊢
      cases one : ArchiveData.extractMember left (leftPath.append [leftName]) member with
      | error fault =>
          rw [one] at extracted
          cases extracted
      | ok grown =>
          rw [one] at extracted
          have alike := extractMember places twins first one
          generalize ArchiveData.extractMember right _ member = done at alike ⊢
          cases alike with
          | done twins => exact ih twins others extracted

end Twins

end

end Disk

/-! ## What extraction keeps -/

namespace Disk.Kept

variable {holds : Disk → Prop} {disk made : Disk} (kept : Kept holds)

include kept

theorem makeMissing (start : holds disk) {path : HostPath} {levels : Nat}
    (making : ArchiveData.makeMissing disk path levels = .ok made) : holds made := by
  induction levels generalizing path made with
  | zero => exact kept.makeDirectory start making
  | succ levels ih =>
      by_cases above : disk.leadsAnywhere path.parent = .ok true
      · rw [ArchiveData.makeMissing_of_leadsAnywhere above] at making
        exact kept.makeDirectory start making
      · rw [ArchiveData.makeMissing_of_missing above] at making
        split at making
        · next higher => exact kept.makeDirectory (ih higher) making
        · exact kept.makeDirectory start making
        · cases making

theorem withAbove (start : holds disk) {path : HostPath}
    (ready : ArchiveData.withAbove disk path = .ok made) : holds made := by
  by_cases above : disk.leadsAnywhere path.parent = .ok true
  · rw [ArchiveData.withAbove_of_leadsAnywhere above] at ready
    cases ready
    exact start
  · rw [ArchiveData.withAbove_of_missing above] at ready
    exact kept.makeMissing start ready

theorem putMember (start : holds disk) {path : HostPath} {content : Option Bytes}
    (done : ArchiveData.putMember disk path content = .ok made) : holds made := by
  cases content with
  | some content => exact kept.write start done
  | none =>
      simp only [ArchiveData.putMember] at done
      split at done
      · cases done
        exact start
      · exact kept.makeDirectory start done

theorem extract (start : holds disk) {directory : HostPath} {members : List ArchiveMember}
    (extracted : ArchiveData.extract disk directory members = .ok made) : holds made := by
  induction members generalizing disk with
  | nil =>
      cases extracted
      exact start
  | cons member members ih =>
      simp only [ArchiveData.extract] at extracted
      cases one : ArchiveData.extractMember disk directory member with
      | error fault =>
          rw [one] at extracted
          cases extracted
      | ok grown =>
          rw [one] at extracted
          rw [ArchiveData.extractMember_eq] at one
          cases above : ArchiveData.withAbove disk
            (directory.append (HostPath.parse member.name).components) with
          | error fault =>
              rw [above] at one
              cases one
          | ok ready =>
              rw [above] at one
              exact ih (kept.putMember (kept.withAbove start above) one) extracted

end Disk.Kept

/-! ## An archive alone -/

namespace ArchiveData

open Disk

/-- What the members of an archive extract to, in a directory on a disk with nothing else. -/
def extractAlone (members : List ArchiveMember) : Except Refusal Disk :=
  extract (Disk.empty.put ["p"] .directory) ⟨.relative, ["p"]⟩ members

theorem rooted_of_extractAlone {members : List ArchiveMember} {alone : Disk}
    (extracted : extractAlone members = .ok alone) : alone.Rooted :=
  kept_rooted.extract (rooted_empty.put rfl (by simp [Disk.entry?, Disk.empty])) extracted

theorem linkFree_of_extractAlone {members : List ArchiveMember} {alone : Disk}
    (extracted : extractAlone members = .ok alone) : alone.LinkFree :=
  kept_linkFree.extract (linkFree_empty.put ["p"] (by simp)) extracted

theorem freshPlace_alone : Disk.empty.FreshPlace ⟨.relative, []⟩ [] "p" where
  leads := ⟨by rw [locate_of_walkable ⟨by decide, by decide, rfl⟩, Disk.follow], rfl⟩
  walkable := ⟨by decide, by decide, rfl⟩
  nameable := ⟨by decide, by decide⟩
  absent := rfl

/-- A fresh directory holds what the archive extracts to anywhere. -/
theorem extract_eq_alone {ready made : Disk} {path : HostPath} {parent : Place} {name : String}
    {members : List ArchiveMember} (fresh : ready.FreshPlace path parent name)
    (rooted : ready.Rooted) (named : name ≠ "")
    (inside : ∀ member ∈ members, staysInside member = true)
    (extracted : extract (ready.put (parent ++ [name]) .directory) (path.append [name]) members =
      .ok made) :
    ∃ alone, extractAlone members = .ok alone ∧
      ∀ inner, made.entry? (parent ++ [name] ++ inner) = alone.entry? ("p" :: inner) := by
  have shorter : ∀ names, ((path.append [name]).append names).Walkable →
      ((HostPath.append ⟨.relative, []⟩ ["p"]).append names).Walkable := by
    intro names walkable
    rw [HostPath.walkable_iff] at walkable ⊢
    rcases walkable with ⟨_, short, clean⟩
    have spelled : HostPath.spelled ["p"] = 2 := by decide
    have nonempty : 0 < Text.Utf8.length name.toList :=
      Text.Utf8.length_pos fun empty => named (String.toList_eq_nil_iff.mp empty)
    simp only [HostPath.append, List.nil_append, HostPath.spelled_append, HostPath.spelled_cons,
      HostPath.spelled_nil, spelled] at short ⊢
    refine ⟨trivial, by omega, ?_⟩
    intro component member
    rcases List.mem_append.mp member with own | below
    · rw [List.mem_singleton.mp own]
      decide
    · exact clean component (List.mem_append_right _ below)
  have filling : Filling .empty (Disk.empty.put ["p"] .directory) ["p"] :=
    freshPlace_alone.filling rooted_empty
  have start : Twins ready .empty (ready.put (parent ++ [name]) .directory)
      (Disk.empty.put ["p"] .directory) (parent ++ [name]) ([] ++ ["p"]) := by
    refine ⟨fresh.filling rooted, filling, ?_⟩
    intro inner
    exact (fresh.entry?_below rooted inner).trans
      (freshPlace_alone.entry?_below rooted_empty inner).symm
  rcases start.extract ⟨fresh, freshPlace_alone, shorter⟩ inside extracted with
    ⟨alone, alike, twins⟩
  exact ⟨alone, alike, twins.same⟩

end ArchiveData

end Typeset
