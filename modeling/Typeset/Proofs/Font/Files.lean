import Typeset.Font.Search
import Typeset.Proofs.Disk.Trees

/-!
# The font files of a search

A search meets the font files below the paths that it is given, one path after another, and below
each in the order of their own paths. It is refused exactly if a path that it looks up is too long:
one that it is given, that of a directory below or one that has the name of a font file.
-/

namespace Typeset.FontSearch

open Disk

/-! ## Gathering -/

section

variable {α β : Type} {find : α → Except DiskFault (List β)} {item : α} {items : List α}
  {part results : List β} {fault : DiskFault}

/-- What is found for an item, and nothing if that is refused. -/
def found (find : α → Except DiskFault (List β)) (item : α) : List β :=
  (find item).toOption.getD []

theorem found_of_eq_ok (finds : find item = .ok part) : found find item = part := by
  rw [found, finds]
  rfl

/-- What is gathered is what is found for the items, one after another. -/
theorem gather_eq_ok_iff : gather find items = .ok results ↔
    (∀ item ∈ items, ∃ part, find item = .ok part) ∧ items.flatMap (found find) = results := by
  induction items generalizing results with
  | nil => simp [gather]
  | cons item items ih =>
      rw [gather, List.forall_mem_cons, List.flatMap_cons]
      cases finds : find item with
      | error fault => simp [bind, Except.bind]
      | ok part =>
          rw [found_of_eq_ok finds]
          cases rest : gather find items with
          | error fault =>
              have refused : ¬∀ item ∈ items, ∃ part, find item = .ok part := by
                intro each
                have gathered := ih.mpr ⟨each, rfl⟩
                rw [rest] at gathered
                cases gathered
              simp [bind, Except.bind, refused]
          | ok later =>
              rcases ih.mp rest with ⟨each, rfl⟩
              simp only [bind, Except.bind, pure, Except.pure, Except.ok.injEq, exists_eq',
                true_and]
              exact ⟨fun same => ⟨each, same⟩, fun same => same.2⟩

theorem gather_error (refused : gather find items = .error fault) :
    ∃ item ∈ items, find item = .error fault := by
  induction items with
  | nil => cases refused
  | cons item items ih =>
      rw [gather] at refused
      cases finds : find item with
      | error other =>
          simp only [finds, bind, Except.bind, Except.error.injEq] at refused
          exact ⟨item, List.mem_cons_self, refused ▸ finds⟩
      | ok part =>
          cases rest : gather find items with
          | error other =>
              simp only [finds, rest, bind, Except.bind, Except.error.injEq] at refused
              rcases ih (refused ▸ rest) with ⟨later, member, refusal⟩
              exact ⟨later, List.mem_cons_of_mem _ member, refusal⟩
          | ok later =>
              simp only [finds, rest, bind, Except.bind] at refused
              cases refused

theorem exists_ok_iff {tooLong : Prop}
    (refusal : ∀ fault, find item = .error fault ↔ fault = .nameTooLong ∧ tooLong) :
    (∃ part, find item = .ok part) ↔ ¬tooLong := by
  cases finds : find item with
  | error fault =>
      have refused := (refusal fault).mp finds
      simp [refused.2]
  | ok part =>
      have short : ¬tooLong := by
        intro tooLong
        cases finds.symm.trans ((refusal _).mpr ⟨rfl, tooLong⟩)
      simp [short]

end

variable {disk : Disk} {paths : List HostPath} {path directory : HostPath} {place : Place}
  {names : List String} {entry : DiskEntry} {fault : DiskFault} {file : FontFile}
  {files : List FontFile}

/-! ## Entries in the order of their paths -/

/-- A path comes before another: the first component in which they differ does, or it is shorter. -/
def ComesBefore (earlier later : HostPath) : Prop :=
  (earlier.components.lex later.components fun first second => decide (first < second)) = true

-- the order of the core library is named, since other orders of lists may be in scope
theorem isInOrder_iff {left right : Place × DiskEntry} :
    isInOrder left right = true ↔ @LE.le (List String) List.instLE left.1 right.1 := by
  rw [isInOrder, Bool.not_eq_true', ← Bool.not_eq_true, List.lex_eq_true_iff_lt, List.not_lt]

theorem isInOrder_trans (first second third : Place × DiskEntry) :
    isInOrder first second = true → isInOrder second third = true →
      isInOrder first third = true := by
  rw [isInOrder_iff, isInOrder_iff, isInOrder_iff]
  exact List.le_trans

theorem isInOrder_total (left right : Place × DiskEntry) :
    (isInOrder left right || isInOrder right left) = true := by
  rw [Bool.or_eq_true, isInOrder_iff, isInOrder_iff]
  exact List.le_total left.1 right.1

theorem comesBefore_of_isInOrder {left right : Place × DiskEntry}
    (inOrder : isInOrder left right = true) (apart : left.1 ≠ right.1) (directory : HostPath) :
    ComesBefore (directory.append left.1) (directory.append right.1) := by
  have before := (List.le_iff_lt_or_eq.mp (isInOrder_iff.mp inOrder)).resolve_right apart
  exact List.lex_eq_true_iff_lt.mpr (List.append_left_lt before)

theorem mem_entriesBelow_iff (tree : disk.IsTree) :
    (path, entry) ∈ entriesBelow disk directory ↔
      ∃ place names, disk.LeadsTo directory place ∧ names ≠ [] ∧
        disk.entry? (place ++ names) = some entry ∧ directory.append names = path := by
  rw [entriesBelow]
  cases located : disk.locate directory ⟨true, false⟩ with
  | error fault =>
      simp only [List.not_mem_nil, false_iff]
      rintro ⟨place, names, leads, -⟩
      cases located.symm.trans leads.found
  | ok place =>
      simp only [List.mem_map, List.mem_mergeSort, List.mem_filter, decide_eq_true_eq,
        Prod.mk.injEq, Prod.exists]
      constructor
      · rintro ⟨names, kind, ⟨member, more⟩, rfl, rfl⟩
        have there := (tree.mem_below_iff more).mp member
        have above := tree.rooted.directory_above more (there ▸ Option.some_ne_none _)
        exact ⟨place, names, ⟨located, above⟩, more, there, rfl⟩
      · rintro ⟨place', names, leads, more, there, rfl⟩
        cases located.symm.trans leads.found
        exact ⟨names, entry, ⟨(tree.mem_below_iff more).mpr there, more⟩, rfl, rfl⟩

/-- The paths below a directory ascend strictly. -/
theorem pairwise_entriesBelow (tree : disk.IsTree) (directory : HostPath) :
    (entriesBelow disk directory).Pairwise fun earlier later =>
      ComesBefore earlier.1 later.1 := by
  rw [entriesBelow]
  split
  · exact List.Pairwise.nil
  · next place _ =>
      have ascending : List.Pairwise (isInOrder · · = true)
          (((disk.below place).filter (·.1 ≠ [])).mergeSort isInOrder) :=
        List.pairwise_mergeSort isInOrder_trans isInOrder_total _
      have once : ((((disk.below place).filter (·.1 ≠ [])).mergeSort isInOrder).map (·.1)).Nodup :=
        ((List.mergeSort_perm _ _).map _).nodup_iff.mpr
          ((tree.nodup_below place).sublist (List.filter_sublist.map _))
      apply List.pairwise_map.mpr
      apply ascending.imp₂ _ (List.pairwise_map.mp once)
      intro earlier later inOrder apart
      exact comesBefore_of_isInOrder inOrder apart directory

/-! ## Font files below a path -/

/-- A font file that is met below a path: one that a path from there leads to. -/
structure HasFontFile (disk : Disk) (directory : HostPath) (file : FontFile) : Prop where
  below : ∃ place names, disk.LeadsTo directory place ∧ names ≠ [] ∧
    disk.entry? (place ++ names) ≠ none ∧ directory.append names = file.path
  named : isFontName file.path = true
  leads : disk.stat file.path = .ok (file.place, .file file.data)

theorem mem_found_fontFile_iff : file ∈ found (fontFile disk) path ↔
    file.path = path ∧ isFontName path = true ∧
      disk.stat path = .ok (file.place, .file file.data) := by
  rcases file with ⟨path', place, data⟩
  rw [found, fontFile]
  split
  · next named =>
      cases looked : disk.stat path with
      | error fault => cases fault <;> simp [DiskFault.meansAbsent, Except.toOption]
      | ok there =>
          rcases there with ⟨place', entry⟩
          cases entry <;> simp [Except.toOption, named, eq_comm]
  · next unnamed => simp [Except.toOption, unnamed]

/-- The font files below a path, in the order of their paths. -/
def filesOf (disk : Disk) (directory : HostPath) : List FontFile :=
  ((entriesBelow disk directory).map (·.1)).flatMap (found (fontFile disk))

theorem mem_filesOf_iff (tree : disk.IsTree) :
    file ∈ filesOf disk directory ↔ HasFontFile disk directory file := by
  simp only [filesOf, List.mem_flatMap, List.mem_map, Prod.exists, mem_found_fontFile_iff]
  constructor
  · rintro ⟨_, ⟨_, entry, member, rfl⟩, rfl, named, found⟩
    rcases (mem_entriesBelow_iff tree).mp member with ⟨place, names, leads, more, there, same⟩
    exact ⟨⟨place, names, leads, more, there ▸ Option.some_ne_none _, same⟩, named, found⟩
  · rintro ⟨⟨place, names, leads, more, present, same⟩, named, found⟩
    rcases Option.ne_none_iff_exists'.mp present with ⟨entry, there⟩
    have member := (mem_entriesBelow_iff tree).mpr ⟨place, names, leads, more, there, same⟩
    exact ⟨_, ⟨_, entry, member, rfl⟩, rfl, named, found⟩

theorem pairwise_filesOf (tree : disk.IsTree) (directory : HostPath) :
    (filesOf disk directory).Pairwise fun earlier later =>
      ComesBefore earlier.path later.path := by
  have single (path : HostPath) : (found (fontFile disk) path).length ≤ 1 := by
    rw [found, fontFile]
    split
    · split
      · simp [Except.toOption]
      · simp [Except.toOption]
      · split <;> simp [Except.toOption]
    · simp [Except.toOption]
  apply List.pairwise_flatMap.mpr
  constructor
  · intro path _
    apply List.pairwise_iff_getElem.mpr
    intro earlier later _ _ before
    have := single path
    omega
  · apply List.pairwise_map.mpr
    apply (pairwise_entriesBelow tree directory).imp
    intro before after ascends earlier early later late
    rwa [(mem_found_fontFile_iff.mp early).1, (mem_found_fontFile_iff.mp late).1]

/-! ## Paths that are looked up -/

/-- The paths that a search looks up. -/
inductive LooksUp (disk : Disk) (paths : List HostPath) : HostPath → Prop
  | listed {path : HostPath} (member : path ∈ paths) : LooksUp disk paths path
  | below {directory : HostPath} {place : Place} {names : List String} {entry : DiskEntry}
      (member : directory ∈ paths) (leads : disk.LeadsTo directory place) (more : names ≠ [])
      (there : disk.entry? (place ++ names) = some entry)
      (asked : entry = .directory ∨ isFontName (directory.append names) = true) :
      LooksUp disk paths (directory.append names)

/-- Nothing that a search of some paths looks up is too long. -/
def AllShort (disk : Disk) (paths : List HostPath) : Prop :=
  ∀ path, LooksUp disk paths path → disk.stat path ≠ .error .nameTooLong

theorem fontDirectory_eq_error_iff : fontDirectory disk path = .error fault ↔
    fault = .nameTooLong ∧ disk.stat path = .error .nameTooLong := by
  rw [fontDirectory, isDirectory, holdsAt]
  cases looked : disk.stat path with
  | ok there => simp [bind, Except.bind, pure, Except.pure]
  | error other =>
      rcases stat_error looked with absent | rfl
      · have short : other ≠ .nameTooLong := by
          rintro rfl
          cases absent
        simp [absent, short, bind, Except.bind, pure, Except.pure]
      · simp [DiskFault.meansAbsent, bind, Except.bind, eq_comm]

theorem fontFile_eq_error_iff : fontFile disk path = .error fault ↔
    fault = .nameTooLong ∧ isFontName path = true ∧ disk.stat path = .error .nameTooLong := by
  rw [fontFile]
  split
  · next named =>
      cases looked : disk.stat path with
      | ok there =>
          rcases there with ⟨place, entry⟩
          cases entry <;> simp
      | error other =>
          rcases stat_error looked with absent | rfl
          · have short : other ≠ .nameTooLong := by
              rintro rfl
              cases absent
            simp [absent, short]
          · simp [DiskFault.meansAbsent, named, eq_comm]
  · next unnamed => simp [unnamed]

theorem openEntry_directory (disk : Disk) (path : HostPath) :
    openEntry disk (path, .directory) = (disk.stat path).map fun _ => [path] := by
  rw [openEntry]
  cases disk.stat path <;> rfl

theorem openEntry_other (disk : Disk) (path : HostPath) (other : entry ≠ .directory) :
    openEntry disk (path, entry) = .ok [path] := by
  cases entry with
  | directory => exact absurd rfl other
  | file | link => rfl

/-- To open an entry below a path is refused only if the entry is a directory and too far below. -/
theorem openEntry_eq_error_iff (tree : disk.IsTree)
    (listed : (path, entry) ∈ entriesBelow disk directory) :
    openEntry disk (path, entry) = .error fault ↔
      fault = .nameTooLong ∧ entry = .directory ∧ disk.stat path = .error .nameTooLong := by
  by_cases inside : entry = .directory
  · subst inside
    rcases (mem_entriesBelow_iff tree).mp listed with ⟨place, names, leads, more, there, rfl⟩
    rw [openEntry_directory]
    rcases tree.stat_directory_below leads more there with looked | refused
    · simp [looked, Except.map]
    · simp [refused, Except.map, eq_comm]
  · simp [openEntry_other disk path inside, inside]

theorem found_openEntry {part : List HostPath} (opened : openEntry disk (path, entry) = .ok part) :
    part = [path] := by
  by_cases inside : entry = .directory
  · rw [inside, openEntry_directory] at opened
    cases looked : disk.stat path with
    | error fault => simp [looked, Except.map] at opened
    | ok there => simpa [looked, Except.map, eq_comm] using opened
  · rw [openEntry_other disk path inside] at opened
    exact (Except.ok.inj opened).symm

theorem pathsBelow_eq_ok_iff : pathsBelow disk directory = .ok paths ↔
    (∀ entry ∈ entriesBelow disk directory, ∃ part, openEntry disk entry = .ok part) ∧
      (entriesBelow disk directory).map (·.1) = paths := by
  rw [pathsBelow, gather_eq_ok_iff]
  apply and_congr_right
  intro opens
  have each : (entriesBelow disk directory).flatMap (found (openEntry disk)) =
      (entriesBelow disk directory).map (·.1) := by
    rw [List.map_eq_flatMap]
    apply List.flatMap_congr
    intro entry member
    rcases opens entry member with ⟨part, opened⟩
    rw [found_of_eq_ok opened, found_openEntry opened]
  rw [each]

theorem filesBelow_eq_ok_iff : filesBelow disk directory = .ok files ↔
    (∀ entry ∈ entriesBelow disk directory, (∃ part, openEntry disk entry = .ok part) ∧
      ∃ part, fontFile disk entry.1 = .ok part) ∧
    filesOf disk directory = files := by
  simp only [forall_and]
  rw [filesBelow]
  cases listed : pathsBelow disk directory with
  | error fault =>
      rcases gather_error listed with ⟨entry, member, refused⟩
      simp only [bind, Except.bind, reduceCtorEq, false_iff]
      rintro ⟨⟨opens, -⟩, -⟩
      rcases opens entry member with ⟨part, opened⟩
      cases refused.symm.trans opened
  | ok paths =>
      rcases pathsBelow_eq_ok_iff.mp listed with ⟨opens, rfl⟩
      simp only [bind, Except.bind, gather_eq_ok_iff, List.forall_mem_map, filesOf, and_assoc]
      exact (and_iff_right opens).symm

theorem found_fontDirectory : found (fontDirectory disk) path =
    if disk.isDirectory path = .ok true then [path] else [] := by
  rw [found, fontDirectory]
  cases disk.isDirectory path with
  | error fault => rfl
  | ok isDirectory => cases isDirectory <;> rfl

theorem mem_directories_iff : directory ∈ paths.flatMap (found (fontDirectory disk)) ↔
    directory ∈ paths ∧ ∃ place, disk.LeadsTo directory place := by
  rw [← isDirectory_eq_true_iff]
  simp only [List.mem_flatMap, found_fontDirectory, List.mem_ite_nil_right, List.mem_singleton]
  constructor
  · rintro ⟨path, member, leads, rfl⟩
    exact ⟨member, leads⟩
  · rintro ⟨member, leads⟩
    exact ⟨directory, member, leads, rfl⟩

theorem flatMap_filesOf_found (tree : disk.IsTree) (path : HostPath) :
    (found (fontDirectory disk) path).flatMap (filesOf disk) = filesOf disk path := by
  rw [found_fontDirectory]
  split
  · exact List.flatMap_singleton _ _
  · next other =>
      symm
      apply List.eq_nil_iff_forall_not_mem.mpr
      intro file member
      rcases ((mem_filesOf_iff tree).mp member).below with ⟨place, names, leads, -⟩
      exact other (isDirectory_eq_true_iff.mpr ⟨place, leads⟩)

theorem allShort_iff (tree : disk.IsTree) : AllShort disk paths ↔
    (∀ path ∈ paths, ∃ part, fontDirectory disk path = .ok part) ∧
      ∀ directory ∈ paths, ∀ entry ∈ entriesBelow disk directory,
        (∃ part, openEntry disk entry = .ok part) ∧ ∃ part, fontFile disk entry.1 = .ok part := by
  simp only [exists_ok_iff fun _ => fontDirectory_eq_error_iff,
    exists_ok_iff fun _ => fontFile_eq_error_iff]
  constructor
  · intro short
    refine ⟨fun path member => short path (.listed member), ?_⟩
    rintro directory member ⟨path, entry⟩ listed
    rcases (mem_entriesBelow_iff tree).mp listed with ⟨place, names, leads, more, there, rfl⟩
    rw [exists_ok_iff fun _ => openEntry_eq_error_iff tree listed]
    constructor
    · rintro ⟨inside, tooLong⟩
      exact short _ (.below member leads more there (.inl inside)) tooLong
    · rintro ⟨named, tooLong⟩
      exact short _ (.below member leads more there (.inr named)) tooLong
  · rintro ⟨directories, entries⟩ path asked tooLong
    cases asked with
    | listed member => exact directories path member tooLong
    | below member leads more there asked =>
        have listed := (mem_entriesBelow_iff tree).mpr ⟨_, _, leads, more, there, rfl⟩
        rcases entries _ member _ listed with ⟨opens, short⟩
        rw [exists_ok_iff fun _ => openEntry_eq_error_iff tree listed] at opens
        rcases asked with inside | named
        · exact opens ⟨inside, tooLong⟩
        · exact short ⟨named, tooLong⟩

/-- The font files that a search meets are those below its paths, one path after another. -/
theorem filesMet_eq_ok_iff (tree : disk.IsTree) : filesMet disk paths = .ok files ↔
    AllShort disk paths ∧ paths.flatMap (filesOf disk) = files := by
  rw [filesMet, allShort_iff tree]
  cases listed : gather (fontDirectory disk) paths with
  | error fault =>
      rcases gather_error listed with ⟨path, member, refused⟩
      simp only [bind, Except.bind, reduceCtorEq, false_iff]
      rintro ⟨⟨directories, -⟩, -⟩
      rcases directories path member with ⟨part, looked⟩
      cases refused.symm.trans looked
  | ok directories =>
      rcases gather_eq_ok_iff.mp listed with ⟨looked, rfl⟩
      have each : (∀ directory ∈ paths.flatMap (found (fontDirectory disk)),
          ∃ part, filesBelow disk directory = .ok part) ↔
          ∀ directory ∈ paths, ∀ entry ∈ entriesBelow disk directory,
            (∃ part, openEntry disk entry = .ok part) ∧
              ∃ part, fontFile disk entry.1 = .ok part := by
        simp only [filesBelow_eq_ok_iff, exists_and_left, exists_eq', and_true, mem_directories_iff]
        constructor
        · rintro each directory member ⟨path, entry⟩ listed
          rcases (mem_entriesBelow_iff tree).mp listed with ⟨place, names, leads, -⟩
          exact each directory ⟨member, place, leads⟩ _ listed
        · rintro each directory ⟨member, -⟩
          exact each directory member
      simp only [bind, Except.bind]
      rw [gather_eq_ok_iff, each, and_iff_right looked]
      apply and_congr_right
      intro short
      have files : (paths.flatMap (found (fontDirectory disk))).flatMap (found (filesBelow disk)) =
          paths.flatMap (filesOf disk) := by
        rw [List.flatMap_assoc]
        apply List.flatMap_congr
        intro path member
        rw [← flatMap_filesOf_found tree path]
        apply List.flatMap_congr
        intro directory within
        have inside := mem_directories_iff.mp (List.mem_flatMap.mpr ⟨path, member, within⟩)
        exact found_of_eq_ok (filesBelow_eq_ok_iff.mpr ⟨short directory inside.1, rfl⟩)
      rw [files]

theorem filesBelow_error (tree : disk.IsTree) (refused : filesBelow disk directory = .error fault) :
    fault = .nameTooLong := by
  rw [filesBelow] at refused
  cases listed : pathsBelow disk directory with
  | error other =>
      simp only [listed, bind, Except.bind, Except.error.injEq] at refused
      rcases gather_error (refused ▸ listed) with ⟨entry, member, unopened⟩
      exact ((openEntry_eq_error_iff tree member).mp unopened).1
  | ok paths =>
      simp only [listed, bind, Except.bind] at refused
      rcases gather_error refused with ⟨path, -, unread⟩
      exact (fontFile_eq_error_iff.mp unread).1

theorem filesMet_error (tree : disk.IsTree) (refused : filesMet disk paths = .error fault) :
    fault = .nameTooLong := by
  rw [filesMet] at refused
  cases listed : gather (fontDirectory disk) paths with
  | error other =>
      simp only [listed, bind, Except.bind, Except.error.injEq] at refused
      rcases gather_error (refused ▸ listed) with ⟨path, -, unfound⟩
      exact (fontDirectory_eq_error_iff.mp unfound).1
  | ok directories =>
      simp only [listed, bind, Except.bind] at refused
      rcases gather_error refused with ⟨directory, -, unsearched⟩
      exact filesBelow_error tree unsearched

theorem filesMet_of_long (tree : disk.IsTree) (long : ¬AllShort disk paths) :
    filesMet disk paths = .error .nameTooLong := by
  cases listed : filesMet disk paths with
  | error fault => rw [filesMet_error tree listed]
  | ok files => exact absurd ((filesMet_eq_ok_iff tree).mp listed).1 long

theorem allShort_iff_each :
    AllShort disk paths ↔ ∀ path ∈ paths, AllShort disk [path] := by
  constructor
  · intro short path member asked lookup
    apply short
    cases lookup with
    | listed first => exact List.mem_singleton.mp first ▸ .listed member
    | below first leads more there asked =>
        exact .below (List.mem_singleton.mp first ▸ member) leads more there asked
  · intro each path lookup
    cases lookup with
    | listed member => exact each path member path (.listed (List.mem_singleton_self path))
    | below member leads more there asked =>
        exact each _ member _ (.below (List.mem_singleton_self _) leads more there asked)

end Typeset.FontSearch
