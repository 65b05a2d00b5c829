import Wordbook.Proofs.Rebuild
import Wordbook.Proofs.Summary

/-! Files of classes and the names of classes. A data file is named for its class, with the extension behind it, and a
reference may name either of the two. The loading takes the extension off the name of the file, the search takes it off
the reference, and the two agree for every name. So each file of a class is kept under a name of its own and is reached
under it, unless it was not read at all, for its path was too long. A data file whose name is no text is the file of no
class, and is skipped. -/
namespace Wordbook

/-- A file of this name lies right inside the directory and holds a value. -/
def FileHolds {α : Type} (tree : FileTree) (ofJson? : Json → Option α) (dir : Path) (name : FileName) (value : α) :
    Prop :=
  ∃ place text, tree.locate dir = .ok place ∧ tree.get? place = some .directory ∧
    tree.get? (name :: place) = some (.file text.toUTF8) ∧ (Json.parse? text).bind ofJson? = some value

/-- A table has an entry for each file: under the name of each class what its file holds, and nothing else. -/
structure KeepsEach {α : Type} (tree : FileTree) (ofJson? : Json → Option α) (dir : Path) (kept : List FileName)
    (table : Table α) : Prop where
  entries : ∀ cls value, table[cls]? = some value ↔
    .ofText (cls ++ ".json") ∈ kept ∧ FileHolds tree ofJson? dir (.ofText (cls ++ ".json")) value
  files : ∀ name ∈ kept, ∃ cls ∈ table, name = .ofText (cls ++ ".json")

/-- A directory is read with the given files: the scan lists the ones, and if all of the others hold values of their
kind, the table has an entry for each of these. -/
structure KeepsFiles {α : Type} (tree : FileTree) (ofJson? : Json → Option α) (dir : Path)
    (listed kept : List FileName) : Prop where
  scanned : (scanDirectory tree dir).result = .ok listed
  loaded : (∀ name ∈ kept, ∃ value, FileHolds tree ofJson? dir name value) →
    ∃ table, (loadNamedClasses tree ofJson? dir).result = .ok table ∧ KeepsEach tree ofJson? dir kept table

/-- A reference denotes an entry of a table of classes: the search looks it up under the name of the class. -/
def Denotes {α : Type} (table : Table α) (reference : String) (value : α) : Prop :=
  table[className reference]? = some value

variable {α : Type} {tree : FileTree} {ofJson? : Json → Option α} {dir : Path} {listed kept : List FileName}
variable {name : FileName} {cls : String} {value : α}

/-! ## Names -/

namespace FileName

theorem splitAtLastDot_append {before after : FileName} (dotless : Path.dot ∉ after) :
    splitAtLastDot (before ++ Path.dot :: after) = some (before, after) := by
  have passes : ∀ byte ∈ after.reverse, (byte != Path.dot) = true := by
    intro byte member
    simp only [bne_iff_ne]
    rintro rfl
    exact dotless (List.mem_reverse.1 member)
  unfold splitAtLastDot
  rw [List.span_eq_takeWhile_dropWhile]
  simp [List.takeWhile_append_of_pos passes, List.dropWhile_append_of_pos passes]

/-- The names of data files have the extension behind something else. -/
theorem isData_iff : isData name = true ↔ ∃ stem, stem ≠ [] ∧ name = stem ++ Bytes.ofText ".json" := by
  constructor
  · intro data
    refine ⟨stem name, fun bare => ?_, eq_stem_append data⟩
    have spelled := eq_stem_append data
    rw [bare] at spelled
    subst spelled
    exact absurd data (by decide)
  · rintro ⟨stem, nonempty, rfl⟩
    obtain ⟨first, rest, rfl⟩ := List.exists_cons_of_ne_nil nonempty
    have spelled : Bytes.ofText ".json" = Path.dot :: Bytes.ofText "json" := by decide
    have parted : splitAtLastDot (first :: rest ++ Bytes.ofText ".json") = some (first :: rest, .ofText "json") := by
      rw [spelled]
      exact splitAtLastDot_append (by decide)
    rw [isData, extension?, parted]
    rfl

/-- A data file is that of a class just if its name is that of the class with the extension behind it. -/
theorem stem_eq_ofText_iff (data : isData name = true) : stem name = .ofText cls ↔ name = .ofText (cls ++ ".json") := by
  have spelled := eq_stem_append data
  rw [Bytes.ofText_append]
  constructor
  · intro named
    rwa [named] at spelled
  · intro named
    rw [named] at spelled
    rw [named]
    exact (List.append_cancel_right spelled).symm

end FileName

@[simp] theorem className_append (cls : String) : className (cls ++ ".json") = cls := by
  have parted : ".json".toList.isSuffixOf? (cls ++ ".json").toList = some cls.toList :=
    List.isSuffixOf?_eq_some_iff_append_eq.2 String.toList_append.symm
  rw [className, parted]
  exact String.ofList_toList

theorem className_of_ne (bare : ∀ inner, cls ≠ inner ++ ".json") : className cls = cls := by
  unfold className
  split
  case h_1 letters parted =>
    have spelled := List.isSuffixOf?_eq_some_iff_append_eq.1 parted
    refine absurd (String.toList_injective ?_) (bare (String.ofList letters))
    rw [String.toList_append, String.toList_ofList, spelled]
  case h_2 => rfl

/-! ## Files -/

theorem KeepsFiles.reachedNames_eq (keeps : KeepsFiles tree ofJson? dir listed kept) : reachedNames tree dir = listed :=
  Except.ok.inj ((result_scanDirectory tree dir).symm.trans keeps.scanned)

/-- The path of a file that is reached leads to the file in the directory. -/
theorem fileHolds_iff_standsFor (proper : tree.Proper) (reached : name ∈ reachedNames tree dir) :
    FileHolds tree ofJson? dir name value ↔ StandsFor tree ofJson? (fileIn dir name) value := by
  obtain ⟨around, located, locatedFile⟩ := locate_reached proper reached
  obtain ⟨place, content, located', there, found, _⟩ := mem_presentNames.1 (List.mem_filter.1 reached).1
  cases located.symm.trans located'
  have foundFile := FileTree.find_eq locatedFile found
  constructor
  · rintro ⟨place', text, located', _, found', decoded⟩
    cases located.symm.trans located'
    cases found.symm.trans found'
    obtain ⟨json, parsed, decoded⟩ := Option.bind_eq_some_iff.1 decoded
    exact ⟨json, ⟨text, foundFile, parsed⟩, decoded⟩
  · rintro ⟨json, ⟨text, found', parsed⟩, decoded⟩
    cases foundFile.symm.trans found'
    exact ⟨around, text, located, there, found, by rw [parsed, Option.bind_some, decoded]⟩

theorem isData_of_reached (reached : name ∈ reachedNames tree dir) : FileName.isData name = true :=
  isData_of_mem (List.mem_filter.1 reached).1

/-- Of data files the files of classes are those that are named for these. -/
theorem mem_classNames_iff {names : Path → List FileName} (data : ∀ name ∈ names dir, FileName.isData name = true) :
    name ∈ classNames names dir ↔ name ∈ names dir ∧ ∃ cls, name = .ofText (cls ++ ".json") := by
  rw [mem_classNames]
  exact and_congr_right fun listed => exists_congr fun cls => FileName.stem_eq_ofText_iff (data name listed)

section Reached
variable (proper : tree.Proper)
include proper

/-- The loading succeeds if all files of classes that are reached hold values. -/
theorem loads_of_holds
    (holds : ∀ name ∈ classNames (reachedNames tree) dir, ∃ value, FileHolds tree ofJson? dir name value) :
    ∃ table, (loadNamedClasses tree ofJson? dir).result = .ok table := by
  refine (answers_loadNamedClasses ofJson? rfl).ok_iff.2 fun input listed => ?_
  obtain ⟨file, within, rfl⟩ := List.mem_map.1 listed
  obtain ⟨name, counted, rfl⟩ := List.mem_map.1 within
  obtain ⟨value, holds⟩ := holds name counted
  exact ((fileHolds_iff_standsFor proper (mem_classNames.1 counted).1).1 holds).sound

/-- What is kept under the name of a class is what its file holds. -/
theorem getElem?_of_loads {table : Table α} (loads : (loadNamedClasses tree ofJson? dir).result = .ok table) :
    table[cls]? = some value ↔ .ofText (cls ++ ".json") ∈ classNames (reachedNames tree) dir ∧
      FileHolds tree ofJson? dir (.ofText (cls ++ ".json")) value := by
  rw [(answers_loadNamedClasses ofJson? rfl).of_ok loads cls value]
  constructor
  · rintro ⟨name, counted, named, stands⟩
    obtain ⟨reached, _⟩ := mem_classNames.1 counted
    obtain rfl := (FileName.stem_eq_ofText_iff (isData_of_reached reached)).1 named
    exact ⟨counted, (fileHolds_iff_standsFor proper reached).2 stands⟩
  · rintro ⟨counted, holds⟩
    obtain ⟨reached, _⟩ := mem_classNames.1 counted
    exact ⟨_, counted, (FileName.stem_eq_ofText_iff (isData_of_reached reached)).2 rfl,
      (fileHolds_iff_standsFor proper reached).1 holds⟩

/-- A directory is read with the files that are reached: all are listed, and those of classes are kept. -/
theorem keepsFiles_reachedNames (ofJson? : Json → Option α) (dir : Path) :
    KeepsFiles tree ofJson? dir (reachedNames tree dir) (classNames (reachedNames tree) dir) := by
  refine ⟨result_scanDirectory tree dir, fun holds => ?_⟩
  obtain ⟨table, loads⟩ := loads_of_holds proper holds
  refine ⟨table, loads, fun cls value => getElem?_of_loads proper loads, fun name counted => ?_⟩
  obtain ⟨_, cls, rfl⟩ := (mem_classNames_iff fun _ => isData_of_reached).1 counted
  obtain ⟨value, holds⟩ := holds _ counted
  exact ⟨cls, mem_of_entry ((getElem?_of_loads proper loads).2 ⟨counted, holds⟩), rfl⟩

/-- It is read with all data files that there are just if the path of none is too long. -/
theorem keepsFiles_presentNames_iff (ofJson? : Json → Option α) (dir : Path) :
    KeepsFiles tree ofJson? dir (presentNames tree dir) (classNames (presentNames tree) dir) ↔
      ∀ name ∈ presentNames tree dir, (fileIn dir name).bytes.length ≤ FileTree.pathLimit := by
  have reached : reachedNames tree dir = presentNames tree dir ↔
      ∀ name ∈ presentNames tree dir, (fileIn dir name).bytes.length ≤ FileTree.pathLimit := by
    rw [reachedNames, List.filter_eq_self]
    refine forall₂_congr fun name present => ?_
    rw [← Nat.not_lt, ← isFile_fileIn_iff present (.of_mem_presentNames proper present), Bool.not_eq_false]
  rw [← reached]
  refine ⟨KeepsFiles.reachedNames_eq, fun same => ?_⟩
  have keeps := keepsFiles_reachedNames proper ofJson? dir
  rwa [classNames, same] at keeps

end Reached

/-- Which files are data files: those that lie right inside the directory and have the extension behind something. -/
theorem mem_presentNames_iff : name ∈ presentNames tree dir ↔ ∃ stem, stem ≠ [] ∧ name = stem ++ Bytes.ofText ".json" ∧
    ∃ place content, tree.locate dir = .ok place ∧ tree.get? place = some .directory ∧
      tree.get? (name :: place) = some (.file content) := by
  have data : FileName.extension? name = some ("json" : FileName) ↔
      ∃ stem, stem ≠ [] ∧ name = stem ++ Bytes.ofText ".json" := by
    rw [← FileName.isData_iff, FileName.isData, beq_iff_eq]
  rw [mem_presentNames]
  constructor
  · rintro ⟨place, content, located, there, found, extension⟩
    obtain ⟨stem, nonempty, named⟩ := data.1 extension
    exact ⟨stem, nonempty, named, place, content, located, there, found⟩
  · rintro ⟨stem, nonempty, named, place, content, located, there, found⟩
    exact ⟨place, content, located, there, found, data.2 ⟨stem, nonempty, named⟩⟩

/-- The data files of a directory, and the references to the classes in them. The data files are the files right inside
the directory whose names have the extension behind something, in ascending order. The directory is read with those to
which their paths lead: they are listed, each that is named for a class is kept under the name of the class, and nothing
else is; the others are skipped, and each is reported. The ones that are reached are all but those whose paths are too
long, so the directory is read with all data files just if there are none of those. A class that is read is denoted by
the name of its file, and by its own name, too, unless this looks like that of a file; then it denotes the class that is
called so without the extension. -/
theorem files_and_references_agree (proper : tree.Proper) (ofJson? : Json → Option α) (dir : Path) :
    (presentNames tree dir).Pairwise (· < ·) ∧
    (∀ name, name ∈ presentNames tree dir ↔ ∃ stem, stem ≠ [] ∧ name = stem ++ Bytes.ofText ".json" ∧
      ∃ place content, tree.locate dir = .ok place ∧ tree.get? place = some .directory ∧
        tree.get? (name :: place) = some (.file content)) ∧
    KeepsFiles tree ofJson? dir (reachedNames tree dir) (classNames (reachedNames tree) dir) ∧
    (∀ name, (name ∈ classNames (reachedNames tree) dir ↔
        name ∈ reachedNames tree dir ∧ ∃ cls, name = .ofText (cls ++ ".json")) ∧
      (name ∈ classNames (presentNames tree) dir ↔
        name ∈ presentNames tree dir ∧ ∃ cls, name = .ofText (cls ++ ".json"))) ∧
    Skips (loadNamedClasses tree ofJson? dir) (nameless (reachedNames tree) dir) ∧
    (∀ name ∈ presentNames tree dir,
      (name ∉ reachedNames tree dir ↔ FileTree.pathLimit < (fileIn dir name).bytes.length)) ∧
    (KeepsFiles tree ofJson? dir (presentNames tree dir) (classNames (presentNames tree) dir) ↔
      ∀ name ∈ presentNames tree dir, (fileIn dir name).bytes.length ≤ FileTree.pathLimit) ∧
    ∀ table, (loadNamedClasses tree ofJson? dir).result = .ok table → ∀ cls value,
      .ofText (cls ++ ".json") ∈ reachedNames tree dir → FileHolds tree ofJson? dir (.ofText (cls ++ ".json")) value →
        Denotes table (cls ++ ".json") value ∧
        ((∀ inner, cls ≠ inner ++ ".json") → Denotes table cls value) ∧
        ∀ inner, cls = inner ++ ".json" → ∀ other, Denotes table cls other ↔ table[inner]? = some other := by
  refine ⟨presentNames_ascending tree dir, fun name => mem_presentNames_iff, keepsFiles_reachedNames proper ofJson? dir,
    fun name => ⟨mem_classNames_iff fun _ => isData_of_reached, mem_classNames_iff fun _ => isData_of_mem⟩,
    skips_loadNamedClasses tree ofJson? dir, fun name present => ?_, keepsFiles_presentNames_iff proper ofJson? dir,
    fun table loads cls value reached holds => ?_⟩
  · rw [← isFile_fileIn_iff present (.of_mem_presentNames proper present)]
    simp [reachedNames, present]
  · have counted : .ofText (cls ++ ".json") ∈ classNames (reachedNames tree) dir :=
      (mem_classNames_iff fun _ => isData_of_reached).2 ⟨reached, cls, rfl⟩
    have entry := (getElem?_of_loads proper loads).2 ⟨counted, holds⟩
    refine ⟨by rwa [Denotes, className_append], fun bare => by rwa [Denotes, className_of_ne bare], ?_⟩
    rintro inner rfl other
    rw [Denotes, className_append]

/-! ## Names that look like those of files -/

/-- A directory in which a class is called as the file of another one is, one file has no name before the extension, the
name of one is no text, and one entry is no file. -/
def cabinet : FileTree := .ofList [
  (["nouns"], Entry.directory),
  (["fruit.json", "nouns"], Entry.file "\x7b\"countable\":true\x7d".toUTF8),
  (["fruit.json.json", "nouns"], Entry.file "\x7b\"countable\":false\x7d".toUTF8),
  (["fruit-salad.json", "nouns"], Entry.file "\x7b\x7d".toUTF8),
  ([accented, "nouns"], Entry.file "\x7b".toUTF8),
  ([".json", "nouns"], Entry.file "\x7b".toUTF8),
  (["drawer.json", "nouns"], Entry.directory)]

/-- The name of a file is that of its class with the extension, also where this is the name of another class. -/
theorem cabinet_kept : cabinet.Proper ∧
    presentNames cabinet ⟨"nouns"⟩ = [accented, "fruit-salad.json", "fruit.json", "fruit.json.json"] ∧
    KeepsFiles cabinet NounClass.ofJson? ⟨"nouns"⟩ (presentNames cabinet ⟨"nouns"⟩)
      ["fruit-salad.json", "fruit.json", "fruit.json.json"] ∧
    ∃ table fruit likeFile, (loadNamedClasses cabinet NounClass.ofJson? ⟨"nouns"⟩).result = .ok table ∧
      fruit.countable = some true ∧ FileHolds cabinet NounClass.ofJson? ⟨"nouns"⟩ "fruit.json" fruit ∧
      likeFile.countable = some false ∧ FileHolds cabinet NounClass.ofJson? ⟨"nouns"⟩ "fruit.json.json" likeFile ∧
      Denotes table "fruit" fruit ∧ Denotes table "fruit.json" fruit ∧ Denotes table "fruit.json.json" likeFile := by
  have proper : cabinet.Proper := FileTree.proper_iff.2 (by decide +kernel)
  have names : presentNames cabinet ⟨"nouns"⟩ = [accented, "fruit-salad.json", "fruit.json", "fruit.json.json"] := by
    decide +kernel
  have named : classNames (presentNames cabinet) ⟨"nouns"⟩ =
      [Bytes.ofText "fruit-salad.json", "fruit.json", "fruit.json.json"] := by decide +kernel
  obtain ⟨_, _, _, _, _, _, present, references⟩ := files_and_references_agree proper NounClass.ofJson? ⟨"nouns"⟩
  have kept := present.2 (by rw [names]; decide)
  rw [named] at kept
  have located : cabinet.locate ⟨"nouns"⟩ = .ok ["nouns"] := by decide +kernel
  have salads : ((Json.parse? "\x7b\x7d").bind NounClass.ofJson?).isSome = true := by decide +kernel
  have fruits : ((Json.parse? "\x7b\"countable\":true\x7d").bind NounClass.ofJson?).bind NounClass.countable =
    some true := by decide +kernel
  have likeFiles : ((Json.parse? "\x7b\"countable\":false\x7d").bind NounClass.ofJson?).bind NounClass.countable =
    some false := by decide +kernel
  obtain ⟨salad, decodedSalad⟩ := Option.isSome_iff_exists.1 salads
  obtain ⟨fruit, decodedFruit, flagFruit⟩ := Option.bind_eq_some_iff.1 fruits
  obtain ⟨likeFile, decodedLikeFile, flagLikeFile⟩ := Option.bind_eq_some_iff.1 likeFiles
  have holdsSalad : FileHolds cabinet NounClass.ofJson? ⟨"nouns"⟩ "fruit-salad.json" salad :=
    ⟨_, _, located, rfl, rfl, decodedSalad⟩
  have holdsFruit : FileHolds cabinet NounClass.ofJson? ⟨"nouns"⟩ "fruit.json" fruit :=
    ⟨_, _, located, rfl, rfl, decodedFruit⟩
  have holdsLikeFile : FileHolds cabinet NounClass.ofJson? ⟨"nouns"⟩ "fruit.json.json" likeFile :=
    ⟨_, _, located, rfl, rfl, decodedLikeFile⟩
  obtain ⟨table, loads, _⟩ := kept.loaded (by
    simp only [List.forall_mem_cons]
    exact ⟨⟨salad, holdsSalad⟩, ⟨fruit, holdsFruit⟩, ⟨likeFile, holdsLikeFile⟩, by simp⟩)
  have reached : (("fruit.json" : FileName) ∈ reachedNames cabinet ⟨"nouns"⟩) ∧
      ("fruit.json.json" : FileName) ∈ reachedNames cabinet ⟨"nouns"⟩ := by simp [kept.reachedNames_eq, names]
  obtain ⟨byFile, byName, _⟩ := references table loads "fruit" fruit reached.1 holdsFruit
  obtain ⟨likeFileByFile, _, _⟩ := references table loads "fruit.json" likeFile reached.2 holdsLikeFile
  have bare : ∀ inner, "fruit" ≠ inner ++ ".json" := by
    intro inner same
    have last := congrArg (fun text => text.toList.getLast?) same
    simp at last
  exact ⟨proper, names, kept, table, fruit, likeFile, loads, flagFruit, holdsFruit, flagLikeFile, holdsLikeFile,
    byName bare, byFile, likeFileByFile⟩

/-! ## Classes that are lost -/

theorem exists_emptyNoun : ∃ cls, (Json.parse? "\x7b\x7d").bind NounClass.ofJson? = some cls :=
  Option.isSome_iff_exists.1 (by decide +kernel)

/-- The directory has a data file that holds a noun class, and it is read as an empty one, as the path is too long. -/
theorem not_keepsFiles_detour {steps : Nat} (fits : 2 * steps + 5 ≤ FileTree.pathLimit)
    (long : FileTree.pathLimit < 2 * steps + 53) :
    presentNames (unread "\x7b\x7d") (detour steps) = [unfinished] ∧
      (∃ cls, FileHolds (unread "\x7b\x7d") NounClass.ofJson? (detour steps) unfinished cls) ∧
      ¬ KeepsFiles (unread "\x7b\x7d") NounClass.ofJson? (detour steps)
        (presentNames (unread "\x7b\x7d") (detour steps)) (presentNames (unread "\x7b\x7d") (detour steps)) := by
  have present := presentNames_detour "\x7b\x7d" fits
  obtain ⟨cls, decoded⟩ := exists_emptyNoun
  refine ⟨present, ⟨cls, ["nouns"], "\x7b\x7d", locate_detour _ fits, rfl, rfl, decoded⟩, fun keeps => ?_⟩
  have none := reachedNames_detour "\x7b\x7d" fits long
  rw [keeps.reachedNames_eq, present] at none
  cases none

/-- A directory may have a data file that holds a noun class, and none is kept for it: not if its name is no text, and not
if its path is too long. -/
theorem overlooked_not_kept :
    (presentNames (foreign "\x7b\x7d") ⟨"nouns"⟩ = [accented] ∧
      (∃ cls, FileHolds (foreign "\x7b\x7d") NounClass.ofJson? ⟨"nouns"⟩ accented cls) ∧
      ¬ KeepsFiles (foreign "\x7b\x7d") NounClass.ofJson? ⟨"nouns"⟩ (presentNames (foreign "\x7b\x7d") ⟨"nouns"⟩)
        (presentNames (foreign "\x7b\x7d") ⟨"nouns"⟩)) ∧
    presentNames (unread "\x7b\x7d") (detour 2031) = [unfinished] ∧
      (∃ cls, FileHolds (unread "\x7b\x7d") NounClass.ofJson? (detour 2031) unfinished cls) ∧
      ¬ KeepsFiles (unread "\x7b\x7d") NounClass.ofJson? (detour 2031)
        (presentNames (unread "\x7b\x7d") (detour 2031)) (presentNames (unread "\x7b\x7d") (detour 2031)) := by
  have present : presentNames (foreign "\x7b\x7d") ⟨"nouns"⟩ = [accented] := by decide +kernel
  have located : (foreign "\x7b\x7d").locate ⟨"nouns"⟩ = .ok ["nouns"] := by decide +kernel
  obtain ⟨cls, decoded⟩ := exists_emptyNoun
  have holds : FileHolds (foreign "\x7b\x7d") NounClass.ofJson? ⟨"nouns"⟩ accented cls :=
    ⟨_, _, located, rfl, rfl, decoded⟩
  refine ⟨⟨present, ⟨cls, holds⟩, fun keeps => ?_⟩, not_keepsFiles_detour (by decide) (by decide)⟩
  rw [present] at keeps
  obtain ⟨_, _, each⟩ := keeps.loaded (by simpa using ⟨cls, holds⟩)
  obtain ⟨_, _, named⟩ := each.files accented (List.mem_singleton_self _)
  have noText : Bytes.text? accented = none := by decide +kernel
  rw [named, Bytes.text?_ofText] at noText
  cases noText

end Wordbook
