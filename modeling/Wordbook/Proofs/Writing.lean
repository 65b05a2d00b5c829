import Wordbook.FileTree

/-! A file that was written is found under the path that it was written to. The write puts one entry into the tree, in
a place where there was no directory, so every step of the path leads where it led before. -/
namespace Wordbook

namespace FileTree

variable {tree after : FileTree} {path : Path} {place location next : Location} {entry other : Entry}
variable {segment : FileName} {segments : List FileName} {text : String}

theorem ok_of_bind {ε α β : Type} {first : Except ε α} {rest : α → Except ε β} {result : β}
    (done : (first >>= rest) = .ok result) : ∃ value, first = .ok value ∧ rest value = .ok result := by
  cases first with
  | error failure => cases done
  | ok value => exact ⟨value, rfl, done⟩

theorem needDirectory_eq_ok_iff : tree.needDirectory location = .ok () ↔ tree.get? location = some .directory := by
  unfold needDirectory
  split <;> simp_all

theorem advance_directory (advanced : tree.advance location segment = .ok next) :
    tree.get? location = some .directory := by
  obtain ⟨_, directory, _⟩ := ok_of_bind advanced
  exact needDirectory_eq_ok_iff.1 directory

/-- Two trees are seen from the same place and have directories in the same places. -/
structure SameWays (tree after : FileTree) : Prop where
  workingDirectory : after.workingDirectory = tree.workingDirectory
  directories : ∀ location, after.get? location = some .directory ↔ tree.get? location = some .directory

namespace SameWays

theorem symm (same : SameWays tree after) : SameWays after tree where
  workingDirectory := same.workingDirectory.symm
  directories location := (same.directories location).symm

theorem origin (same : SameWays tree after) : after.origin path = tree.origin path := by
  rw [FileTree.origin, FileTree.origin, same.workingDirectory]

/-- A step looks at nothing but whether there is a directory where it starts. -/
theorem advance (same : SameWays tree after) (advanced : tree.advance location segment = .ok next) :
    after.advance location segment = .ok next := by
  have directory := advance_directory advanced
  have stays := (same.directories location).2 directory
  unfold FileTree.advance at advanced ⊢
  rwa [needDirectory_eq_ok_iff.2 stays, ← needDirectory_eq_ok_iff.2 directory]

theorem foldlM_advance (same : SameWays tree after) (followed : segments.foldlM tree.advance location = .ok next) :
    segments.foldlM after.advance location = .ok next := by
  induction segments generalizing location with
  | nil => exact followed
  | cons first rest ih =>
    rw [List.foldlM_cons] at followed ⊢
    obtain ⟨middle, advanced, followed⟩ := ok_of_bind followed
    rw [same.advance advanced]
    exact ih followed

theorem locate (same : SameWays tree after) (located : tree.locate path = .ok place) :
    after.locate path = .ok place := by
  obtain ⟨_, needed, followed⟩ := ok_of_bind located
  rw [FileTree.locate, needed, same.origin]
  exact same.foldlM_advance followed

end SameWays

/-- Putting a file where there is no directory changes no way. -/
theorem sameWays_put (content : ByteArray) (nonroot : place ≠ []) (free : tree.get? place ≠ some .directory) :
    SameWays tree (tree.put place (.file content)) where
  workingDirectory := rfl
  directories location := by
    rw [get?_put nonroot]
    split
    · rename_i here
      simp [← here, free]
    · rfl

/-- A path that does not end in an empty piece is all pieces, none of them dropped at its end. -/
theorem segments_of_dropWhile {last : FileName} {outer : List FileName} (ends : path.segments.getLast? ≠ some [])
    (reversed : path.segments.reverse.dropWhile (· == []) = last :: outer) :
    path.segments = outer.reverse ++ [last] := by
  rw [← List.head?_reverse] at ends
  have whole : path.segments.reverse = last :: outer := by
    cases pieces : path.segments.reverse with
    | nil => simp [pieces] at reversed
    | cons first more =>
      have proper : first ≠ [] := by simpa [pieces] using ends
      simpa [pieces, proper] using reversed
  rw [← List.reverse_reverse path.segments, whole, List.reverse_cons]

/-- A piece that is a name leads from a directory to the entry of that name. -/
theorem advance_named {name : FileName} (around : tree.needDirectory location = .ok ()) (nonempty : segment ≠ [])
    (proper : ¬ (segment = [Path.dot] ∨ segment = [Path.dot, Path.dot])) (named : nameOf segment = .ok name) :
    tree.advance location segment = .ok (name :: location) := by
  obtain ⟨notHere, notUp⟩ := not_or.1 proper
  have idle : Path.isIdle segment = false := by simp [Path.isIdle, nonempty, notHere]
  rw [advance, around, named, idle, if_neg notUp]
  rfl

/-- A path whose pieces but the last lead to a place from which the last one leads on. -/
theorem locate_append {outer : List FileName} {last : FileName} (needed : needPath path = .ok ())
    (pieces : path.segments = outer ++ [last]) (followed : outer.foldlM tree.advance (tree.origin path) = .ok location)
    (advanced : tree.advance location last = .ok next) : tree.locate path = .ok next := by
  rw [locate, needed, pieces]
  change (outer ++ [last]).foldlM tree.advance (tree.origin path) = .ok next
  rw [List.foldlM_append, followed]
  change [last].foldlM tree.advance location = .ok next
  rw [List.foldlM_cons, advanced]
  rfl

/-- A file can be written to a path that ends in a name, in a directory where the name is not that of a directory. -/
theorem target_eq_ok_iff : tree.target path = .ok place ↔ needPath path = .ok () ∧
    ∃ outer last directory name, path.segments = outer ++ [last] ∧ last ≠ [] ∧ ¬ (last = [Path.dot] ∨ last = [Path.dot, Path.dot]) ∧
      outer.foldlM tree.advance (tree.origin path) = .ok directory ∧ tree.get? directory = some .directory ∧
      nameOf last = .ok name ∧ place = name :: directory ∧ tree.get? place ≠ some .directory := by
  constructor
  · intro found
    obtain ⟨_, needed, found⟩ := ok_of_bind found
    dsimp only at found
    split at found
    · cases found
    · rename_i last outer reversed
      obtain ⟨directory, followed, found⟩ := ok_of_bind found
      obtain ⟨_, around, found⟩ := ok_of_bind found
      split at found
      · cases found
      · rename_i proper
        simp only [Bool.or_eq_true, decide_eq_true_iff, or_assoc] at proper
        obtain ⟨ends, lastProper⟩ := not_or.1 proper
        obtain ⟨name, named, found⟩ := ok_of_bind found
        have pieces := segments_of_dropWhile ends reversed
        have nonempty : last ≠ [] := by
          rintro rfl
          exact ends (by simp [pieces])
        split at found
        · cases found
        · rename_i free
          cases found
          have there := needDirectory_eq_ok_iff.1 around
          exact ⟨needed, _, _, _, _, pieces, nonempty, lastProper, followed, there, named, rfl, free⟩
  · rintro ⟨needed, outer, last, directory, name, pieces, nonempty, proper, followed, around, named, rfl, free⟩
    have reversed : path.segments.reverse.dropWhile (· == []) = last :: outer.reverse := by
      simp [pieces, nonempty]
    have ends : path.segments.getLast? ≠ some [] := by simp [pieces, nonempty]
    obtain ⟨notHere, notUp⟩ := not_or.1 proper
    rw [target, needed]
    simp only [bind, Except.bind, reversed, List.reverse_reverse, followed, needDirectory_eq_ok_iff.2 around, named]
    simp [ends, notHere, notUp]

/-- Where a file can be written: the path leads there, and there is no directory. -/
theorem target_spec (found : tree.target path = .ok place) :
    tree.locate path = .ok place ∧ place ≠ [] ∧ tree.get? place ≠ some .directory := by
  obtain ⟨needed, outer, last, directory, name, pieces, nonempty, proper, followed, around, named, rfl, free⟩ :=
    target_eq_ok_iff.1 found
  have advanced := advance_named (needDirectory_eq_ok_iff.2 around) nonempty proper named
  exact ⟨locate_append needed pieces followed advanced, List.cons_ne_nil _ _, free⟩

theorem SameWays.target (same : SameWays tree after) (found : tree.target path = .ok place) :
    after.target path = .ok place := by
  obtain ⟨needed, outer, last, directory, name, pieces, nonempty, proper, followed, around, named, rfl, free⟩ :=
    target_eq_ok_iff.1 found
  refine target_eq_ok_iff.2 ⟨needed, outer, last, directory, name, pieces, nonempty, proper, ?_, ?_, named, rfl, ?_⟩
  · rw [same.origin]
    exact same.foldlM_advance followed
  · exact (same.directories directory).2 around
  · exact fun directory => free ((same.directories _).1 directory)

theorem find_eq (located : tree.locate path = .ok location) (there : tree.get? location = some entry) :
    tree.find path = .ok entry := by
  rw [find, located]
  simp only [bind, Except.bind, there]

/-- A write that succeeds puts the text in one place, which the path leads to, and changes nothing else. -/
theorem write_ok (written : tree.write path text = .ok after) :
    ∃ place, tree.locate path = .ok place ∧ after.workingDirectory = tree.workingDirectory ∧
      after.get? place = some (.file text.toUTF8) ∧ ∀ other, other ≠ place → after.get? other = tree.get? other := by
  obtain ⟨place, found, written⟩ := ok_of_bind written
  cases written
  obtain ⟨located, nonroot, _⟩ := target_spec found
  refine ⟨place, located, rfl, by rw [get?_put nonroot, if_pos rfl], fun other different => ?_⟩
  rw [get?_put nonroot, if_neg (Ne.symm different)]

theorem readText_of_find (found : tree.find path = .ok (.file text.toUTF8)) : tree.readText path = .ok text := by
  simp only [readText, readBytes, found, bind, Except.bind, fromUTF8?_toUTF8]

/-- What is written is found again. -/
theorem find_write (written : tree.write path text = .ok after) : after.find path = .ok (.file text.toUTF8) := by
  obtain ⟨place, found, written⟩ := ok_of_bind written
  cases written
  obtain ⟨located, nonroot, free⟩ := target_spec found
  exact find_eq ((sameWays_put _ nonroot free).locate located) (by rw [get?_put nonroot, if_pos rfl])

theorem put_put : (tree.put place entry).put place other = tree.put place other := by
  have entries : (tree.entries.insert place entry).insert place other = tree.entries.insert place other := by
    apply Std.ExtTreeMap.ext_getElem?
    intro location
    simp only [Std.ExtTreeMap.getElem?_insert]
    split <;> rfl
  simp only [put, entries]

/-- A text that was written can be written again, which changes nothing. -/
theorem write_again (written : tree.write path text = .ok after) : after.write path text = .ok after := by
  obtain ⟨place, found, written⟩ := ok_of_bind written
  cases written
  obtain ⟨_, nonroot, free⟩ := target_spec found
  rw [write, (sameWays_put _ nonroot free).target found]
  exact congrArg Except.ok put_put

end FileTree

end Wordbook
