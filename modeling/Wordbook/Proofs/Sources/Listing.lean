import Mathlib.Data.List.TakeDrop
import Wordbook.Proofs.Writing
import Wordbook.Sources.Load

/-! The data files of a directory. They are the files right inside it whose names have the right extension, in ascending
order. A build follows the path of the directory with the name of the file behind it, and passes over the files to which
that path does not lead. If the names are such as names can be, these are the ones whose path is too long. -/
namespace Wordbook

/-- The names of the data files right inside a directory, in ascending order. -/
def presentNames (tree : FileTree) (dir : Path) : List FileName :=
  if tree.isDirectory dir then (tree.fileNames dir).filter FileName.isData else []

/-- The names of those among them to which the path through the directory leads. -/
def reachedNames (tree : FileTree) (dir : Path) : List FileName :=
  (presentNames tree dir).filter fun name => tree.isFile (fileIn dir name)

/-- The names of the files of classes among some names: those whose stem is a text. -/
def classNames (names : Path → List FileName) (dir : Path) : List FileName :=
  (names dir).filter fun name => (FileName.className? name).isSome

/-- A name that a file can have. -/
structure ProperName (name : FileName) : Prop where
  slash : Path.slash ∉ name
  nul : 0 ∉ name
  short : name.length ≤ FileTree.nameLimit

instance (name : FileName) : Decidable (ProperName name) :=
  decidable_of_iff (Path.slash ∉ name ∧ 0 ∉ name ∧ name.length ≤ FileTree.nameLimit)
    ⟨fun ⟨slash, nul, short⟩ => ⟨slash, nul, short⟩, fun proper => ⟨proper.slash, proper.nul, proper.short⟩⟩

variable {tree : FileTree} {dir : Path} {name other : FileName} {place : Location} {content : ByteArray}

/-! ## Names -/

namespace FileName

theorem eq_append_of_splitAtLastDot {before after : FileName}
    (split : splitAtLastDot name = some (before, after)) : name = before ++ Path.dot :: after := by
  unfold splitAtLastDot at split
  rw [List.span_eq_takeWhile_dropWhile] at split
  cases dropped : name.reverse.dropWhile (· != Path.dot) with
  | nil => simp [dropped] at split
  | cons dot rest =>
    have isDot : dot = Path.dot := by
      have stops := List.head?_dropWhile_not (· != Path.dot) name.reverse
      simpa [dropped] using stops
    have parts : rest.reverse = before ∧ (name.reverse.takeWhile (· != Path.dot)).reverse = after := by
      simpa [dropped] using split
    obtain ⟨rfl, rfl⟩ := parts
    subst isDot
    calc name = (name.reverse.takeWhile (· != Path.dot) ++ name.reverse.dropWhile (· != Path.dot)).reverse := by
          rw [List.takeWhile_append_dropWhile, List.reverse_reverse]
      _ = rest.reverse ++ Path.dot :: (name.reverse.takeWhile (· != Path.dot)).reverse := by simp [dropped]

/-- The name of a data file is its stem and the extension. -/
theorem eq_stem_append (data : isData name = true) : name = stem name ++ ".json" := by
  have named : extension? name = some ("json" : FileName) := by simpa [isData] using data
  have spelled : Bytes.ofText ".json" = Path.dot :: "json" := by decide
  unfold extension? at named
  unfold stem
  split at named
  case h_1 => cases named
  case h_2 => cases named
  case h_3 before after hasStem parted =>
    cases named
    rw [spelled]
    exact eq_append_of_splitAtLastDot parted

theorem stem_injective (data : isData name = true) (data' : isData other = true)
    (same : stem name = stem other) : name = other := by
  rw [eq_stem_append data, eq_stem_append data', same]

/-- A name is listed before another one if it comes before it byte by byte. -/
theorem lt_of_compare (before : compare name other = .lt) : name < other := by
  induction name generalizing other with
  | nil =>
    cases other with
    | nil => cases before
    | cons => exact .nil
  | cons first rest ih =>
    cases other with
    | nil => cases before
    | cons first' rest' =>
      rw [List.compare_cons_cons, Ordering.then_eq_lt] at before
      rw [List.cons_lt_cons_iff]
      rcases before with less | ⟨same, less⟩
      · exact .inl (Std.compare_eq_lt.1 less)
      · exact .inr ⟨Std.LawfulEqOrd.eq_of_compare same, ih less⟩

end FileName

/-! ## Listing -/

theorem isDirectory_iff :
    tree.isDirectory dir = true ↔ ∃ place, tree.locate dir = .ok place ∧ tree.get? place = some .directory := by
  unfold FileTree.isDirectory FileTree.find
  cases tree.locate dir with
  | error fault => simp [bind, Except.bind]
  | ok place =>
    simp only [bind, Except.bind, Except.ok.injEq, exists_eq_left']
    cases tree.get? place with
    | none => simp
    | some entry => cases entry <;> simp

/-- The name of a file right inside a place. -/
def nameIn? (place : Location) (entry : Location × Entry) : Option FileName :=
  match entry with
  | (name :: parent, .file _) => if parent = place then some name else none
  | _ => none

theorem nameIn?_eq_some_iff {entry : Location × Entry} :
    nameIn? place entry = some name ↔ ∃ content, entry = (name :: place, .file content) := by
  unfold nameIn?
  split <;> simp_all [and_comm]

theorem fileNames_eq (located : tree.locate dir = .ok place) :
    tree.fileNames dir = tree.entries.toList.filterMap (nameIn? place) := by
  rw [FileTree.fileNames, located]
  rfl

theorem mem_fileNames (located : tree.locate dir = .ok place) :
    name ∈ tree.fileNames dir ↔ ∃ content, tree.get? (name :: place) = some (.file content) := by
  simp only [fileNames_eq located, List.mem_filterMap, nameIn?_eq_some_iff, FileTree.get?,
    ← Std.ExtTreeMap.mem_toList_iff_getElem?_eq_some]
  constructor
  · rintro ⟨_, member, content, rfl⟩
    exact ⟨content, member⟩
  · rintro ⟨content, member⟩
    exact ⟨_, member, content, rfl⟩

/-- Files right inside a directory are told apart by their names, and a tree has them in the order of those. -/
theorem fileNames_ascending (tree : FileTree) (dir : Path) : (tree.fileNames dir).Pairwise (· < ·) := by
  cases located : tree.locate dir with
  | error fault => simp [FileTree.fileNames, located]
  | ok place =>
    rw [fileNames_eq located]
    refine Std.ExtTreeMap.ordered_keys_toList.filterMap _ ?_
    intro entry entry' before name listed name' listed'
    obtain ⟨_, rfl⟩ := nameIn?_eq_some_iff.1 listed
    obtain ⟨_, rfl⟩ := nameIn?_eq_some_iff.1 listed'
    -- Both locations go on with the same directory behind the name, so only the names can be in order.
    have names : compare name name' = .lt := by
      rw [List.compare_cons_cons, Std.compare_self] at before
      simpa using before
    exact FileName.lt_of_compare names

theorem mem_presentNames : name ∈ presentNames tree dir ↔
    ∃ place content, tree.locate dir = .ok place ∧ tree.get? place = some .directory ∧
      tree.get? (name :: place) = some (.file content) ∧ FileName.extension? name = some ("json" : FileName) := by
  unfold presentNames
  by_cases directory : tree.isDirectory dir = true
  · obtain ⟨place, located, there⟩ := isDirectory_iff.1 directory
    rw [if_pos directory, List.mem_filter, mem_fileNames located]
    constructor
    · rintro ⟨⟨content, found⟩, data⟩
      exact ⟨place, content, located, there, found, by simpa [FileName.isData] using data⟩
    · rintro ⟨place', content, located', _, found, data⟩
      cases located.symm.trans located'
      exact ⟨⟨content, found⟩, by simpa [FileName.isData] using data⟩
  · rw [if_neg directory]
    constructor
    · intro member
      cases member
    · rintro ⟨place, content, located, there, _⟩
      exact absurd (isDirectory_iff.2 ⟨place, located, there⟩) directory

theorem presentNames_ascending (tree : FileTree) (dir : Path) : (presentNames tree dir).Pairwise (· < ·) := by
  unfold presentNames
  split
  · exact (fileNames_ascending tree dir).filter _
  · exact .nil

theorem isData_of_mem (present : name ∈ presentNames tree dir) : FileName.isData name = true := by
  obtain ⟨_, _, _, _, _, data⟩ := mem_presentNames.1 present
  simp [FileName.isData, data]

/-- The data files of a directory are told apart by the stems of their names, too. -/
theorem nodup_stems (tree : FileTree) (dir : Path) : ((reachedNames tree dir).map FileName.stem).Nodup := by
  have ascending : (reachedNames tree dir).Pairwise (· < ·) := (presentNames_ascending tree dir).filter _
  rw [List.Nodup, List.pairwise_map]
  refine ascending.imp_of_mem fun {name other} member member' before sameStem => ?_
  have data {name : FileName} (member : name ∈ reachedNames tree dir) := isData_of_mem (List.mem_filter.1 member).1
  rw [FileName.stem_injective (data member) (data member') sameStem] at before
  exact absurd before (List.lt_irrefl _)

theorem nodup_classStems (tree : FileTree) (dir : Path) :
    ((classNames (reachedNames tree) dir).map FileName.stem).Nodup :=
  (nodup_stems tree dir).sublist (List.filter_sublist.map _)

/-- A scan comes to the files that it reaches. -/
theorem result_scanDirectory (tree : FileTree) (dir : Path) :
    (scanDirectory tree dir).result = .ok (reachedNames tree dir) := by
  unfold scanDirectory reachedNames presentNames dataFileNames
  split
  · simp [List.filter_filter, Bool.and_comm]
  · rfl

/-! ## Following a path -/

theorem FileName.plain_of_isData (data : isData name = true) :
    name ≠ [] ∧ name ≠ [Path.dot] ∧ name ≠ [Path.dot, Path.dot] := by
  refine ⟨?_, ?_, ?_⟩
  all_goals
    rintro rfl
    exact absurd data (by decide)

/-- An idle piece needs a directory and stays there. -/
theorem advance_idle_iff {location next : Location} {segment : FileName} (idle : Path.isIdle segment = true) :
    tree.advance location segment = .ok next ↔ tree.get? location = some .directory ∧ next = location := by
  rw [FileTree.advance, if_pos idle, ← FileTree.needDirectory_eq_ok_iff]
  constructor
  · intro advanced
    obtain ⟨_, around, stays⟩ := FileTree.ok_of_bind advanced
    cases stays
    exact ⟨around, rfl⟩
  · rintro ⟨around, rfl⟩
    rw [around]
    rfl

/-- A name leads from a directory to what has the name there. -/
theorem advance_name (proper : ProperName name) (data : FileName.isData name = true)
    (there : tree.get? place = some .directory) : tree.advance place name = .ok (name :: place) := by
  obtain ⟨nonempty, notHere, notUp⟩ := FileName.plain_of_isData data
  refine FileTree.advance_named (FileTree.needDirectory_eq_ok_iff.2 there) nonempty (not_or.2 ⟨notHere, notUp⟩) ?_
  rw [FileTree.nameOf, if_neg (Nat.not_lt.2 proper.short)]

theorem needPath_eq_ok_iff {path : Path} : FileTree.needPath path = .ok () ↔
    0 ∉ path.bytes ∧ path.bytes.length ≤ FileTree.pathLimit ∧ path.bytes ≠ [] := by
  unfold FileTree.needPath
  by_cases nul : 0 ∈ path.bytes
  · simp [nul]
  · by_cases long : FileTree.pathLimit < path.bytes.length
    · simp [nul, long, Nat.not_le.2 long]
    · by_cases bare : path.bytes = [] <;> simp [nul, bare, Nat.not_lt.1 long]

theorem isAbsolute_name (slash : Path.slash ∉ name) : Path.isAbsolute ⟨name⟩ = false := by
  have first : name.head? ≠ some Path.slash := fun head => slash (List.mem_of_head? head)
  simpa [Path.isAbsolute] using first

/-- The path of a file of a directory is the path of the directory with the name behind it. -/
theorem bytes_fileIn (dir : Path) (slash : Path.slash ∉ name) :
    ∃ joint, (joint = [] ∨ joint = [Path.slash]) ∧ (fileIn dir name).bytes = dir.bytes ++ joint ++ name := by
  unfold fileIn Path.join
  rw [isAbsolute_name slash]
  by_cases needs : dir.needsSlash = true
  · exact ⟨[Path.slash], .inr rfl, by simp [needs]⟩
  · exact ⟨[], .inl rfl, by simp [needs]⟩

theorem origin_fileIn (given : dir.bytes ≠ []) (slash : Path.slash ∉ name) :
    tree.origin (fileIn dir name) = tree.origin dir := by
  obtain ⟨joint, _, spelled⟩ := bytes_fileIn dir slash
  have absolute : (fileIn dir name).isAbsolute = dir.isAbsolute := by
    cases bytes : dir.bytes with
    | nil => exact absurd bytes given
    | cons first rest => simp [Path.isAbsolute, spelled, bytes]
  rw [FileTree.origin, FileTree.origin, absolute]

/-- It has the pieces of that path, less an empty one at the end, and the name. -/
theorem segments_fileIn (given : dir.bytes ≠ []) (slash : Path.slash ∉ name) :
    (∃ outer, dir.segments = outer ++ [[]] ∧ (fileIn dir name).segments = outer ++ [name]) ∨
      (fileIn dir name).segments = dir.segments ++ [name] := by
  unfold fileIn Path.join
  rw [isAbsolute_name slash]
  by_cases needs : dir.needsSlash = true
  · right
    simp [needs, Path.segments, List.splitOn_append_cons_self, List.splitOn_eq_singleton slash]
  · left
    have ends : dir.bytes.getLast? = some Path.slash := by
      cases last : dir.bytes.getLast? with
      | none => simp_all
      | some byte => simpa [Path.needsSlash, last] using needs
    obtain ⟨front, bytes⟩ := List.getLast?_eq_some_iff.1 ends
    refine ⟨front.splitOn Path.slash, ?_, ?_⟩
    · simp [Path.segments, bytes, List.splitOn_append_cons_self]
    · simp [needs, Path.segments, bytes, List.splitOn_append_cons_self, List.splitOn_eq_singleton slash]

/-- The path of a file of a directory leads to the file, unless it is too long. -/
theorem locate_fileIn (located : tree.locate dir = .ok place) (there : tree.get? place = some .directory)
    (proper : ProperName name) (data : FileName.isData name = true)
    (fits : (fileIn dir name).bytes.length ≤ FileTree.pathLimit) :
    tree.locate (fileIn dir name) = .ok (name :: place) := by
  obtain ⟨_, needed, followed⟩ := FileTree.ok_of_bind located
  obtain ⟨nul, _, given⟩ := needPath_eq_ok_iff.1 needed
  have neededFile : FileTree.needPath (fileIn dir name) = .ok () := by
    obtain ⟨joint, slash, spelled⟩ := bytes_fileIn dir proper.slash
    refine needPath_eq_ok_iff.2 ⟨?_, fits, ?_⟩
    · have slashNul : (0 : UInt8) ≠ Path.slash := by decide
      rcases slash with rfl | rfl <;> simp [spelled, nul, proper.nul, slashNul]
    · simp [spelled, given]
  have named := advance_name proper data there
  rcases segments_fileIn given proper.slash with ⟨outer, pieces, piecesFile⟩ | piecesFile
  · rw [pieces, List.foldlM_append] at followed
    obtain ⟨around, followed, idle⟩ := FileTree.ok_of_bind followed
    -- The path of the directory ends in a slash; the empty piece behind it has stayed in the directory.
    rw [List.foldlM_cons] at idle
    obtain ⟨_, idle, same⟩ := FileTree.ok_of_bind idle
    cases same
    cases (advance_idle_iff rfl).1 idle |>.2
    refine FileTree.locate_append neededFile piecesFile ?_ named
    rwa [origin_fileIn given proper.slash]
  · refine FileTree.locate_append neededFile piecesFile ?_ named
    rwa [origin_fileIn given proper.slash]

theorem isFile_fileIn_iff (present : name ∈ presentNames tree dir) (proper : ProperName name) :
    tree.isFile (fileIn dir name) = false ↔ FileTree.pathLimit < (fileIn dir name).bytes.length := by
  obtain ⟨place, content, located, there, found, _⟩ := mem_presentNames.1 present
  have data := isData_of_mem present
  constructor
  · intro lost
    by_contra fits
    have reached := FileTree.find_eq (locate_fileIn located there proper data (Nat.not_lt.1 fits)) found
    rw [FileTree.isFile, reached] at lost
    cases lost
  · intro long
    have unneeded : FileTree.needPath (fileIn dir name) ≠ .ok () := fun needed =>
      Nat.not_lt.2 (needPath_eq_ok_iff.1 needed).2.1 long
    unfold FileTree.isFile
    split
    case h_1 content found =>
      obtain ⟨_, located, _⟩ := FileTree.ok_of_bind found
      obtain ⟨_, needed, _⟩ := FileTree.ok_of_bind located
      exact absurd needed unneeded
    case h_2 => rfl

end Wordbook
