import Typeset.Proofs.Font.Faces
import Typeset.Proofs.Font.Files

/-!
# The font index

A font file is listed where it is met first, and its faces in their order. The book and the slots
go through the same faces, so the slot at a place loads the face that the book names there. A path
below which every font file is met before changes nothing, unless something that is looked up there
is too long.
-/

namespace Typeset

open Disk

namespace FontSearch

variable {reader : FaceReader} {disk : Disk} {paths : List HostPath} {embedded : List Bytes}
  {fonts : Fonts} {fault : Fault} {met : List Place} {place : Place} {file : FontFile}
  {files front middle back : List FontFile}

/-! ## Font files that are met first -/

/-- The font files that are the first at their places, apart from places that are met already. -/
def firsts (met : List Place) : List FontFile → List FontFile
  | [] => []
  | file :: files =>
      if met.contains file.place then firsts met files
      else file :: firsts (file.place :: met) files

/-- The places that are met after some font files. -/
def metAfter (met : List Place) : List FontFile → List Place
  | [] => met
  | file :: files => metAfter (if met.contains file.place then met else file.place :: met) files

theorem firsts_cons_of_met (known : file.place ∈ met) :
    firsts met (file :: files) = firsts met files :=
  if_pos (List.contains_iff_mem.mpr known)

theorem firsts_cons_of_new (new : file.place ∉ met) :
    firsts met (file :: files) = file :: firsts (file.place :: met) files :=
  if_neg fun known => new (List.contains_iff_mem.mp known)

theorem metAfter_cons_of_met (known : file.place ∈ met) :
    metAfter met (file :: files) = metAfter met files := by
  rw [metAfter, if_pos (List.contains_iff_mem.mpr known)]

theorem metAfter_cons_of_new (new : file.place ∉ met) :
    metAfter met (file :: files) = metAfter (file.place :: met) files := by
  rw [metAfter, if_neg fun known => new (List.contains_iff_mem.mp known)]

theorem collect_eq_foldl (reader : FaceReader) (met : List Place) (fonts : Fonts)
    (files : List FontFile) :
    collect reader met fonts files = (firsts met files).foldl (addFile reader) fonts := by
  induction files generalizing met fonts with
  | nil => rfl
  | cons file files ih =>
      rw [collect]
      split
      · next known => rw [firsts_cons_of_met known, ih]
      · next new => rw [firsts_cons_of_new new, List.foldl_cons, ih]

theorem mem_firsts_iff : file ∈ firsts met files ↔
    file.place ∉ met ∧ files.find? (·.place == file.place) = some file := by
  induction files generalizing met with
  | nil => simp [firsts]
  | cons first files ih =>
      rw [List.find?_cons]
      by_cases known : first.place ∈ met
      · rw [firsts_cons_of_met known, ih]
        apply and_congr_right
        intro new
        have apart : first.place ≠ file.place := by
          intro same
          exact new (same ▸ known)
        rw [beq_eq_false_iff_ne.mpr apart]
      · rw [firsts_cons_of_new known, List.mem_cons, ih, List.mem_cons]
        by_cases same : first.place = file.place
        · simp only [same, beq_self_eq_true, Option.some.injEq, true_or, not_true, false_and,
            or_false]
          rw [← same, and_iff_right known]
          exact eq_comm
        · have apart : file ≠ first := by
            rintro rfl
            exact same rfl
          simp [beq_eq_false_iff_ne.mpr same, apart, Ne.symm same]

theorem firsts_sublist (met : List Place) (files : List FontFile) :
    (firsts met files).Sublist files := by
  induction files generalizing met with
  | nil => exact List.Sublist.slnil
  | cons file files ih =>
      by_cases known : file.place ∈ met
      · rw [firsts_cons_of_met known]
        exact (ih met).cons file
      · rw [firsts_cons_of_new known]
        exact (ih _).cons_cons file

theorem nodup_firsts (met : List Place) (files : List FontFile) :
    ((firsts met files).map FontFile.place).Nodup := by
  induction files generalizing met with
  | nil => exact List.nodup_nil
  | cons file files ih =>
      by_cases known : file.place ∈ met
      · rw [firsts_cons_of_met known]
        exact ih met
      · rw [firsts_cons_of_new known, List.map_cons, List.nodup_cons]
        refine ⟨?_, ih _⟩
        intro again
        rcases List.mem_map.mp again with ⟨later, member, same⟩
        exact (mem_firsts_iff.mp member).1 (same ▸ List.mem_cons_self)

theorem firsts_append (met : List Place) (front back : List FontFile) :
    firsts met (front ++ back) = firsts met front ++ firsts (metAfter met front) back := by
  induction front generalizing met with
  | nil => rfl
  | cons file front ih =>
      rw [List.cons_append]
      by_cases known : file.place ∈ met
      · rw [firsts_cons_of_met known, firsts_cons_of_met known, metAfter_cons_of_met known, ih]
      · rw [firsts_cons_of_new known, firsts_cons_of_new known, metAfter_cons_of_new known, ih,
          List.cons_append]

theorem mem_metAfter_iff :
    place ∈ metAfter met files ↔ place ∈ met ∨ ∃ file ∈ files, file.place = place := by
  induction files generalizing met with
  | nil => simp [metAfter]
  | cons first files ih =>
      rw [List.exists_mem_cons_iff]
      by_cases known : first.place ∈ met
      · rw [metAfter_cons_of_met known, ih]
        constructor
        · rintro (old | new)
          · exact .inl old
          · exact .inr (.inr new)
        · rintro (old | rfl | new)
          · exact .inl old
          · exact .inl known
          · exact .inr new
      · rw [metAfter_cons_of_new known, ih, List.mem_cons, eq_comm, or_left_comm, or_assoc]

theorem firsts_of_met (known : ∀ file ∈ files, file.place ∈ met) : firsts met files = [] := by
  induction files with
  | nil => rfl
  | cons file files ih =>
      rw [List.forall_mem_cons] at known
      rw [firsts_cons_of_met known.1, ih known.2]

theorem metAfter_of_met (known : ∀ file ∈ files, file.place ∈ met) : metAfter met files = met := by
  induction files with
  | nil => rfl
  | cons file files ih =>
      rw [List.forall_mem_cons] at known
      rw [metAfter_cons_of_met known.1, ih known.2]

/-- Font files at places that are met before add nothing. -/
theorem firsts_insert_met
    (known : ∀ file ∈ middle, ∃ earlier ∈ front, earlier.place = file.place) :
    firsts met (front ++ (middle ++ back)) = firsts met (front ++ back) := by
  have seen : ∀ file ∈ middle, file.place ∈ metAfter met front :=
    fun file member => mem_metAfter_iff.mpr (.inr (known file member))
  rw [firsts_append, firsts_append _ middle, firsts_of_met seen, metAfter_of_met seen,
    List.nil_append, ← firsts_append]

/-! ## What a search answers -/

/-- The index of the faces of some font files and then of some fonts in memory. -/
def indexOf (reader : FaceReader) (files : List FontFile) (embedded : List Bytes) : Fonts :=
  embedded.foldl (addInMemory reader) (files.foldl (addFile reader) .empty)

theorem search_of_short (tree : disk.IsTree) (short : AllShort disk paths) :
    search reader disk paths embedded =
      .ok (indexOf reader (firsts [] (paths.flatMap (filesOf disk))) embedded) := by
  rw [search, (filesMet_eq_ok_iff tree).mpr ⟨short, rfl⟩]
  simp only [collect_eq_foldl, indexOf]

theorem search_of_long (tree : disk.IsTree) (long : ¬AllShort disk paths) :
    search reader disk paths embedded = .error DiskFault.nameTooLong.toFault := by
  rw [search, filesMet_of_long tree long]

/-- All font files below a path lie at places that are met below earlier paths. -/
def Covered (disk : Disk) (before : List HostPath) (directory : HostPath) : Prop :=
  ∀ file, HasFontFile disk directory file →
    ∃ earlier ∈ before, ∃ other, HasFontFile disk earlier other ∧ other.place = file.place

theorem search_insert_covered (tree : disk.IsTree) {before after : List HostPath}
    {directory : HostPath} (short : AllShort disk [directory])
    (covered : Covered disk before directory) :
    search reader disk (before ++ directory :: after) embedded =
      search reader disk (before ++ after) embedded := by
  have same : AllShort disk (before ++ directory :: after) ↔ AllShort disk (before ++ after) := by
    rw [allShort_iff_each, allShort_iff_each, List.forall_mem_append, List.forall_mem_append,
      List.forall_mem_cons, and_iff_right short]
  by_cases all : AllShort disk (before ++ after)
  · have known : ∀ file ∈ filesOf disk directory, ∃ earlier ∈ before.flatMap (filesOf disk),
        earlier.place = file.place := by
      intro file member
      rcases covered file ((mem_filesOf_iff tree).mp member) with
        ⟨earlier, listed, other, there, samePlace⟩
      exact ⟨other, List.mem_flatMap.mpr ⟨earlier, listed, (mem_filesOf_iff tree).mpr there⟩,
        samePlace⟩
    rw [search_of_short tree all, search_of_short tree (same.mpr all), List.flatMap_append,
      List.flatMap_cons, firsts_insert_met known, List.flatMap_append]
  · rw [search_of_long tree all, search_of_long tree fun longer => all (same.mp longer)]

/-! ## What a font index lists -/

/-- A listing of the font files below each path, in the order of their paths. -/
structure ListsFiles (disk : Disk) (below : HostPath → List FontFile) : Prop where
  complete : ∀ directory file, file ∈ below directory ↔ HasFontFile disk directory file
  ascending : ∀ directory, (below directory).Pairwise fun earlier later =>
    ComesBefore earlier.path later.path

/-- A listing of the named faces of each font file, in the order of their places. -/
structure ListsFaces (reader : FaceReader) (faces : Bytes → Bool → List (Nat × FontInfo)) :
    Prop where
  complete : ∀ data isCollection place info, (place, info) ∈ faces data isCollection ↔
    (isCollection = true ∨ place = 0) ∧ reader.HasFace data place info
  ascending : ∀ data isCollection, (faces data isCollection).Pairwise fun earlier later =>
    earlier.1 < later.1

/-- The font files among some that no other file at the same place comes before. -/
structure AreFirst (firsts files : List FontFile) : Prop where
  inOrder : firsts.Sublist files
  once : (firsts.map FontFile.place).Nodup
  complete : ∀ file, file ∈ firsts ↔ files.find? (·.place == file.place) = some file

/-- The faces of some font files and then those of some fonts in memory. -/
def facesOf (faces : Bytes → Bool → List (Nat × FontInfo)) (files : List FontFile)
    (embedded : List Bytes) : List (Nat × FontInfo) :=
  files.flatMap (fun file => faces file.data file.isCollection) ++
    embedded.flatMap fun data => faces data (FaceReader.isMarkedCollection data)

/-- An index of the faces of some font files, each file once, and then of fonts in memory. -/
structure Records (faces : Bytes → Bool → List (Nat × FontInfo)) (firsts : List FontFile)
    (embedded : List Bytes) (fonts : Fonts) : Prop where
  book : fonts.book.faces = (facesOf faces firsts embedded).map (·.2)
  inStep : fonts.slots.map (fun slot => (slot.index, slot.info)) = facesOf faces firsts embedded
  slots : fonts.slots =
    firsts.flatMap (fun file => (faces file.data file.isCollection).map fun (index, info) =>
      .onDisk file.path index info none) ++
    embedded.flatMap fun data => (faces data (FaceReader.isMarkedCollection data)).map
      fun (index, info) => .inMemory ⟨data, index, info⟩

/-- An index of the font files below some paths and of some fonts in memory. -/
structure Indexes (reader : FaceReader) (disk : Disk) (paths : List HostPath)
    (embedded : List Bytes) (fonts : Fonts) : Prop where
  records : ∃ below faces firsts, ListsFiles disk below ∧ ListsFaces reader faces ∧
    AreFirst firsts (paths.flatMap below) ∧ Records faces firsts embedded fonts
  loads : ∀ slot ∈ fonts.slots, ∃ font, (slot.get disk).1 = some font
  agrees : ∀ slot ∈ fonts.slots, ∀ later font, (slot.get later).1 = some font →
    font.index = slot.index ∧ font.info = slot.info

theorem listsFiles_filesOf (tree : disk.IsTree) : ListsFiles disk (filesOf disk) where
  complete _ _ := mem_filesOf_iff tree
  ascending := pairwise_filesOf tree

theorem listsFaces_faces (reader : FaceReader) : ListsFaces reader reader.faces where
  complete _ _ _ _ := FaceReader.mem_faces_iff
  ascending := reader.pairwise_faces

theorem areFirst_firsts (files : List FontFile) : AreFirst (firsts [] files) files where
  inOrder := firsts_sublist [] files
  once := nodup_firsts [] files
  complete _ := mem_firsts_iff.trans (and_iff_right List.not_mem_nil)

/-- Faces are entered in the book and among the slots alike, behind those that are there. -/
theorem addFaces_eq (load : Nat → FontInfo → FontSlot) (fonts : Fonts)
    (faces : List (Nat × FontInfo)) :
    fonts.addFaces load faces = ⟨⟨fonts.book.faces ++ faces.map (·.2)⟩,
      fonts.slots ++ faces.map fun (index, info) => load index info⟩ := by
  rw [Fonts.addFaces]
  induction faces generalizing fonts with
  | nil => simp
  | cons face faces ih =>
      rw [List.foldl_cons, ih]
      simp [Fonts.add]

theorem foldl_addFaces_eq {α : Type} (load : α → Nat → FontInfo → FontSlot)
    (found : α → List (Nat × FontInfo)) (items : List α) (fonts : Fonts) :
    items.foldl (fun fonts item => fonts.addFaces (load item) (found item)) fonts =
      ⟨⟨fonts.book.faces ++ (items.flatMap found).map (·.2)⟩,
        fonts.slots ++ items.flatMap fun item =>
          (found item).map fun (index, info) => load item index info⟩ := by
  induction items generalizing fonts with
  | nil => simp
  | cons item items ih =>
      rw [List.foldl_cons, ih, addFaces_eq]
      simp

theorem faces_indexOf (reader : FaceReader) (files : List FontFile) (embedded : List Bytes) :
    (indexOf reader files embedded).book.faces =
      (facesOf reader.faces files embedded).map (·.2) := by
  unfold indexOf addFile addInMemory
  rw [foldl_addFaces_eq, foldl_addFaces_eq, facesOf, List.map_append]
  rfl

theorem slots_indexOf (reader : FaceReader) (files : List FontFile) (embedded : List Bytes) :
    (indexOf reader files embedded).slots =
      files.flatMap (fun file => (reader.faces file.data file.isCollection).map
        fun (index, info) => .onDisk file.path index info none) ++
      embedded.flatMap fun data => (reader.faces data (FaceReader.isMarkedCollection data)).map
        fun (index, info) => .inMemory ⟨data, index, info⟩ := by
  unfold indexOf addFile addInMemory
  rw [foldl_addFaces_eq, foldl_addFaces_eq]
  rfl

theorem records_indexOf (reader : FaceReader) (files : List FontFile) (embedded : List Bytes) :
    Records reader.faces files embedded (indexOf reader files embedded) where
  book := faces_indexOf reader files embedded
  inStep := by
    rw [slots_indexOf]
    simp [facesOf, List.map_flatMap, FontSlot.index, FontSlot.info, Function.comp_def]
  slots := slots_indexOf reader files embedded

/-- A slot loads from one of the font files, and has not done so, or holds a font in memory. -/
theorem exists_of_mem_slots {slot : FontSlot}
    (member : slot ∈ (indexOf reader files embedded).slots) :
    (∃ file ∈ files, ∃ index info, slot = .onDisk file.path index info none) ∨
      ∃ font, slot = .inMemory font := by
  rw [slots_indexOf] at member
  rcases List.mem_append.mp member with onDisk | inMemory
  · rcases List.mem_flatMap.mp onDisk with ⟨file, listed, ofFile⟩
    rcases List.mem_map.mp ofFile with ⟨⟨index, info⟩, -, rfl⟩
    exact .inl ⟨file, listed, index, info, rfl⟩
  · rcases List.mem_flatMap.mp inMemory with ⟨data, -, ofData⟩
    rcases List.mem_map.mp ofData with ⟨⟨index, info⟩, -, rfl⟩
    exact .inr ⟨_, rfl⟩

theorem read_of_stat {path : HostPath} {data : Bytes}
    (leads : disk.stat path = .ok (place, .file data)) : disk.read path = .ok data := by
  rw [Disk.read, leads]
  rfl

/-- The slots of font files that are still there load their faces. -/
theorem loads_of_mem_slots {slot : FontSlot} (member : slot ∈ (indexOf reader files embedded).slots)
    (there : ∀ file ∈ files, disk.stat file.path = .ok (file.place, .file file.data)) :
    ∃ font, (slot.get disk).1 = some font := by
  rcases exists_of_mem_slots member with ⟨file, listed, index, info, rfl⟩ | ⟨font, rfl⟩
  · refine ⟨⟨file.data, index, info⟩, ?_⟩
    simp only [FontSlot.get, read_of_stat (there file listed)]
  · exact ⟨font, rfl⟩

/-- Whatever becomes of the disk, a slot loads no other face than its own. -/
theorem agrees_of_mem_slots {slot : FontSlot} {later : Disk} {font : Font}
    (member : slot ∈ (indexOf reader files embedded).slots)
    (loaded : (slot.get later).1 = some font) :
    font.index = slot.index ∧ font.info = slot.info := by
  rcases exists_of_mem_slots member with ⟨file, -, index, info, rfl⟩ | ⟨font, rfl⟩
  · simp only [FontSlot.get] at loaded
    split at loaded
    · cases loaded
      exact ⟨rfl, rfl⟩
    · cases loaded
  · cases loaded
    exact ⟨rfl, rfl⟩

/--
A search ends with an index in which every named face of every font file is listed once, at the
first path that leads to the file, unless a path that it looks up is too long. A path below which
every font file is met before makes no difference, unless something there is too long.
Any reader that opens finitely many faces of each font file will do
(`FaceReader.exists_reader`).
-/
theorem search_lists_faces_once (reader : FaceReader) (tree : disk.IsTree) (paths : List HostPath)
    (embedded : List Bytes) :
    (AllShort disk paths → ∃ fonts, search reader disk paths embedded = .ok fonts ∧
      Indexes reader disk paths embedded fonts) ∧
    (¬AllShort disk paths →
      search reader disk paths embedded = .error DiskFault.nameTooLong.toFault) ∧
    ∀ before directory after, paths = before ++ directory :: after →
      AllShort disk [directory] → Covered disk before directory →
      search reader disk paths embedded = search reader disk (before ++ after) embedded := by
  refine ⟨fun short => ⟨_, search_of_short tree short, ?_⟩, search_of_long tree, ?_⟩
  · constructor
    · exact ⟨_, _, _, listsFiles_filesOf tree, listsFaces_faces reader, areFirst_firsts _,
        records_indexOf reader _ embedded⟩
    · intro slot member
      apply loads_of_mem_slots member
      intro file listed
      rcases List.mem_flatMap.mp ((firsts_sublist _ _).subset listed) with ⟨path, -, below⟩
      exact ((mem_filesOf_iff tree).mp below).leads
    · intro slot member later font loaded
      exact agrees_of_mem_slots member loaded
  · rintro before directory after rfl short covered
    exact search_insert_covered tree short covered

/-! ## One font -/

/-- A disk with one font file in a directory. -/
def oneFont : Disk :=
  ⟨[(["f"], .directory), (["f", "a.ttf"], .file (Text.Utf8.encode "FONT\nA|".toList))]⟩

theorem isTree_oneFont : oneFont.IsTree where
  rooted := rooted_of_entries (by simp [oneFont, Disk.entry?])
  once := by decide
  named := by
    have directory : Spellable "f" := ⟨⟨by decide, by decide⟩, by decide⟩
    have font : Spellable "a.ttf" := ⟨⟨by decide, by decide⟩, by decide⟩
    simp [oneFont, directory, font]

/-- Every entry of the disk is found at its own place. -/
theorem stat_oneFont {entry : DiskEntry} (there : oneFont.entry? place = some entry) :
    oneFont.stat ⟨.relative, place⟩ = .ok (place, entry) := by
  refine stat_eq_ok_iff.mpr ⟨?_, there⟩
  by_cases below : place = []
  · subst below
    rw [locate_of_walkable ⟨by decide, by decide, rfl⟩]
    exact follow_of_arrives .here
  · have listed := (isTree_oneFont.mem_entries_iff below).mpr there
    simp only [oneFont, List.mem_cons, Prod.mk.injEq, List.not_mem_nil, or_false] at listed
    rcases listed with ⟨rfl, -⟩ | ⟨rfl, -⟩
    · rw [locate_of_walkable ⟨by decide, by decide, rfl⟩]
      exact follow_of_arrives (.into ⟨by decide, by decide⟩ rfl .here)
    · rw [locate_of_walkable ⟨by decide, by decide, rfl⟩]
      exact follow_of_arrives
        (.into ⟨by decide, by decide⟩ rfl (.atFile ⟨by decide, by decide⟩ rfl))

theorem allShort_oneFont (there : oneFont.entry? place = some .directory) :
    AllShort oneFont [⟨.relative, place⟩] := by
  have found {place : Place} {entry : DiskEntry} (present : oneFont.entry? place = some entry) :
      oneFont.stat ⟨.relative, place⟩ ≠ .error .nameTooLong := by
    rw [stat_oneFont present]
    nofun
  intro path asked
  cases asked with
  | listed member =>
      rw [List.mem_singleton.mp member]
      exact found there
  | below member leads more present =>
      rw [List.mem_singleton] at member
      subst member
      cases leads.found.symm.trans (stat_eq_ok_iff.mp (stat_oneFont there)).1
      exact found present

/-- The directory above one that is searched brings no further face. -/
theorem search_above_lists_nothing_again :
    oneFont.IsTree ∧
      search PlainFont.reader oneFont [⟨.relative, ["f"]⟩, ⟨.relative, []⟩] [] =
        search PlainFont.reader oneFont [⟨.relative, ["f"]⟩] [] := by
  refine ⟨isTree_oneFont, ?_⟩
  apply (search_lists_faces_once PlainFont.reader isTree_oneFont _ []).2.2
    [⟨.relative, ["f"]⟩] ⟨.relative, []⟩ [] rfl (allShort_oneFont rfl)
  rintro file ⟨⟨place, names, leads, more, present, same⟩, named, found⟩
  cases leads.found.symm.trans (stat_eq_ok_iff.mp (stat_oneFont rfl)).1
  rcases Option.ne_none_iff_exists'.mp present with ⟨entry, there⟩
  have listed := (isTree_oneFont.mem_entries_iff more).mpr there
  simp only [oneFont, List.mem_cons, Prod.mk.injEq, List.not_mem_nil, or_false] at listed
  rcases listed with ⟨rfl, -⟩ | ⟨rfl, -⟩
  · rw [← same] at named
    exact absurd named (by decide)
  · have leads : oneFont.LeadsTo ⟨.relative, ["f"]⟩ ["f"] :=
      ⟨(stat_eq_ok_iff.mp (stat_oneFont rfl)).1, rfl⟩
    refine ⟨_, List.mem_singleton_self _, file, ⟨?_, named, found⟩, rfl⟩
    exact ⟨["f"], ["a.ttf"], leads, List.cons_ne_nil _ _, present, same⟩

/-- A path that is one name of so many letters. -/
def letters (count : Nat) : HostPath :=
  ⟨.relative, [String.ofList (List.replicate count 'a')]⟩

theorem length_letters (count : Nat) :
    Text.Utf8.length (String.ofList (List.replicate count 'a')).toList = count := by
  rw [String.toList_ofList]
  induction count with
  | zero => rfl
  | succ count ih =>
      have one : Text.Utf8.length ['a'] = 1 := by decide
      rw [List.replicate_succ, Text.Utf8.length_cons, ih, one, Nat.add_comm]

theorem stat_letters {count : Nat} (tooLong : maxNameLength < count)
    (short : count ≤ maxPathLength) : disk.stat (letters count) = .error .nameTooLong := by
  have walkable : (letters count).Walkable := by
    refine HostPath.walkable_iff.mpr ⟨rfl, ?_, ?_⟩
    · rw [letters, HostPath.spelled_cons, length_letters, HostPath.spelled_nil]
      omega
    · simp [letters]
  have notUp : String.ofList (List.replicate count 'a') ≠ ".." := by
    intro same
    have lengths := length_letters count
    rw [same, show Text.Utf8.length "..".toList = 2 by decide] at lengths
    rw [maxNameLength] at tooLong
    omega
  rw [stat, locate_of_walkable walkable, letters, follow, if_neg notUp, length_letters,
    if_pos tooLong]
  rfl

/-- No font file is below a path that is too long, but it breaks off the search. -/
theorem overlong_path_breaks_search :
    Covered oneFont [⟨.relative, ["f"]⟩] (letters 256) ∧
      (∃ fonts, search PlainFont.reader oneFont [⟨.relative, ["f"]⟩] [] = .ok fonts) ∧
      search PlainFont.reader oneFont [⟨.relative, ["f"]⟩, letters 256] [] =
        .error (.system 36) := by
  have refused : oneFont.stat (letters 256) = .error .nameTooLong :=
    stat_letters (by decide) (by decide)
  refine ⟨?_, ⟨_, search_of_short isTree_oneFont (allShort_oneFont rfl)⟩, ?_⟩
  · rintro file ⟨⟨place, names, leads, -⟩, -, -⟩
    cases refused.symm.trans (stat_eq_ok_iff.mpr ⟨leads.found, leads.there⟩)
  · apply search_of_long isTree_oneFont
    intro short
    exact short _ (.listed (List.mem_cons_of_mem _ (List.mem_singleton_self _))) refused

end FontSearch

end Typeset
