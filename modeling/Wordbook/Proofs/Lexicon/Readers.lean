import Wordbook.Proofs.Sources.Reading

/-! The two readers of a lexicon. A data file is read as a whole and then made sense of; a saved lexicon is taken as
JSON from its first byte on. So the two tell faults apart at different places: what cannot be found is unreadable to
both, and text that spells no lexicon is malformed to both, but a directory, and a file whose bytes are no text, are
unreadable to the first and malformed to the second. -/
namespace Wordbook

/-- Two readings of a file come to the same: to one value, or to failures of one kind. -/
inductive SameReading {α : Type} (file : Path) : Except Failure α → Except Failure α → Prop
  | value (value : α) : SameReading file (.ok value) (.ok value)
  | unreadable (fault other : Fault) :
      SameReading file (.error (.unreadable file fault)) (.error (.unreadable file other))
  | malformed : SameReading file (.error (.malformedJson file)) (.error (.malformedJson file))

/-- A reading goes by the text of the file: it comes to what the text spells; to a failure to read the file, if it
cannot be read as text; and to a failure to make sense of it, if the text spells nothing of the kind. -/
inductive GoesByText {α : Type} (tree : FileTree) (ofJson? : Json → Option α) (file : Path) : Except Failure α → Prop
  | value {text : String} {value : α} : tree.readText file = .ok text →
      (Json.parse? text).bind ofJson? = some value → GoesByText tree ofJson? file (.ok value)
  | unreadable {reason : Fault} (fault : Fault) : tree.readText file = .error reason →
      GoesByText tree ofJson? file (.error (.unreadable file fault))
  | malformed {text : String} : tree.readText file = .ok text →
      (Json.parse? text).bind ofJson? = none → GoesByText tree ofJson? file (.error (.malformedJson file))

/-- The two readers of a lexicon come to the same, and both go by the text of the file. -/
structure ReadersAgree (tree : FileTree) (file : Path) : Prop where
  same : SameReading file (Lexicon.load tree file) (readData tree Lexicon.ofJson? file)
  load : GoesByText tree Lexicon.ofJson? file (Lexicon.load tree file)
  readData : GoesByText tree Lexicon.ofJson? file (readData tree Lexicon.ofJson? file)

/-- A path leads to something that is no text, and the fault of reading it as text. -/
inductive NoText (tree : FileTree) (file : Path) : Fault → Prop
  | directory (found : tree.find file = .ok .directory) : NoText tree file .isADirectory
  | bytes {content : ByteArray} (found : tree.find file = .ok (.file content))
      (invalid : ∀ text : String, content ≠ text.toUTF8) : NoText tree file .invalidText

variable {α : Type} {tree : FileTree} {file : Path} {ofJson? : Json → Option α} {result : Except Failure α}
variable {fault : Fault} {text : String}

/-! ## Reading the whole text first -/

theorem readData_of_unread (unread : tree.readText file = .error fault) :
    readData tree ofJson? file = .error (.unreadable file fault) := by
  rw [readData, unread]
  rfl

theorem readData_of_text (read : tree.readText file = .ok text) :
    readData tree ofJson? file = ((Json.parse? text).bind ofJson?).elim (.error (.malformedJson file)) .ok := by
  simp only [readData, read, Except.mapError, bind, Except.bind]
  cases (Json.parse? text).bind ofJson? <;> rfl

theorem goesByText_readData (tree : FileTree) (ofJson? : Json → Option α) (file : Path) :
    GoesByText tree ofJson? file (readData tree ofJson? file) := by
  cases read : tree.readText file with
  | error fault =>
    rw [readData_of_unread read]
    exact .unreadable fault read
  | ok text =>
    rw [readData_of_text read]
    cases spelled : (Json.parse? text).bind ofJson? with
    | none => exact .malformed read spelled
    | some value => exact .value read spelled

/-- Whatever goes by the text comes to the same as this reading. -/
theorem GoesByText.same_readData (goes : GoesByText tree ofJson? file result) :
    SameReading file result (readData tree ofJson? file) := by
  cases goes with
  | value read spelled =>
    rw [readData_of_text read, spelled]
    exact .value _
  | unreadable fault unread =>
    rw [readData_of_unread unread]
    exact .unreadable fault _
  | malformed read unspelled =>
    rw [readData_of_text read, unspelled]
    exact .malformed

/-! ## Taking the bytes as JSON -/

theorem fromUTF8?_eq_none_iff {content : ByteArray} :
    String.fromUTF8? content = none ↔ ∀ text : String, content ≠ text.toUTF8 := by
  rw [Option.eq_none_iff_forall_ne_some]
  exact forall_congr' fun text => not_congr fromUTF8?_eq_some_iff

/-- Where there is text, and where there is nothing at all, the two readings come to the very same. -/
theorem load_eq_readData (texts : ∀ fault, ¬ NoText tree file fault) :
    Lexicon.load tree file = readData tree Lexicon.ofJson? file := by
  rw [readData_eq, Lexicon.load]
  cases found : tree.find file with
  | error fault => rfl
  | ok entry =>
    cases entry with
    | directory => exact absurd (.directory found) (texts .isADirectory)
    | file content =>
      cases decoded : String.fromUTF8? content with
      | none => exact absurd (.bytes found (fromUTF8?_eq_none_iff.1 decoded)) (texts .invalidText)
      | some text =>
        simp only [decoded, Option.bind_some]
        cases (Json.parse? text).bind Lexicon.ofJson? <;> rfl

/-- What is no text is unreadable to the one and malformed to the other. -/
theorem NoText.readData_eq (textless : NoText tree file fault) :
    readData tree ofJson? file = .error (.unreadable file fault) := by
  cases textless with
  | directory found => rw [Wordbook.readData_eq, found]
  | bytes found invalid =>
    rw [Wordbook.readData_eq, found]
    simp only [fromUTF8?_eq_none_iff.2 invalid]

theorem NoText.load_eq (textless : NoText tree file fault) : Lexicon.load tree file = .error (.malformedJson file) := by
  cases textless with
  | directory found => rw [Lexicon.load, found]
  | bytes found invalid =>
    rw [Lexicon.load, found]
    simp only [fromUTF8?_eq_none_iff.2 invalid, Option.bind_none]

theorem readersAgree_iff : ReadersAgree tree file ↔ ∀ fault, ¬ NoText tree file fault := by
  constructor
  · intro agree fault textless
    have same := agree.same
    rw [textless.load_eq, textless.readData_eq] at same
    cases same
  · intro texts
    have goes : GoesByText tree Lexicon.ofJson? file (Lexicon.load tree file) :=
      load_eq_readData texts ▸ goesByText_readData tree Lexicon.ofJson? file
    exact ⟨goes.same_readData, goes, goesByText_readData tree Lexicon.ofJson? file⟩

/-- The two readers of a lexicon read the same lexicons. They agree, failures included, exactly where the path does not
lead to a directory or to bytes that are no text, and then they come to the very same; the reader that takes in the
whole text goes by it everywhere. Where there is no text, that one finds the file unreadable, and the reader of saved
lexicons finds it malformed. -/
theorem readers_agree_but_on_no_text (tree : FileTree) (file : Path) :
    (∀ lexicon, Lexicon.load tree file = .ok lexicon ↔ readData tree Lexicon.ofJson? file = .ok lexicon) ∧
    GoesByText tree Lexicon.ofJson? file (readData tree Lexicon.ofJson? file) ∧
    (ReadersAgree tree file ↔ ∀ fault, ¬ NoText tree file fault) ∧
    ((∀ fault, ¬ NoText tree file fault) → Lexicon.load tree file = readData tree Lexicon.ofJson? file) ∧
    ∀ fault, NoText tree file fault → Lexicon.load tree file = .error (.malformedJson file) ∧
      readData tree Lexicon.ofJson? file = .error (.unreadable file fault) := by
  refine ⟨fun lexicon => ?_, goesByText_readData tree _ file, readersAgree_iff, load_eq_readData,
    fun fault textless => ⟨textless.load_eq, textless.readData_eq⟩⟩
  by_cases texts : ∀ fault, ¬ NoText tree file fault
  · rw [load_eq_readData texts]
  · obtain ⟨fault, textless⟩ := not_forall_not.1 texts
    rw [textless.load_eq, textless.readData_eq]
    simp only [reduceCtorEq]

/-- A tree with a lexicon that was saved, one that was cut off within a character, and a directory that is called like
a file. -/
def archive : FileTree := .ofList [
  (["whole.json"], Entry.file "\x7b\"naïve\":[\"adj\"]\x7d".toUTF8),
  (["cut.json"], Entry.file ⟨#[0x7b, 0x22, 0x6e, 0x61, 0xc3]⟩),
  (["lexicon.json"], Entry.directory)]

theorem archive_noText : NoText archive ⟨"lexicon.json"⟩ .isADirectory ∧ NoText archive ⟨"cut.json"⟩ .invalidText := by
  constructor
  · exact .directory rfl
  · exact .bytes rfl (fromUTF8?_eq_none_iff.1 (by decide +kernel))

/-- What was saved is read by both, and both tell what is no text from it, each in its way. -/
theorem archive_read : ReadersAgree archive ⟨"whole.json"⟩ ∧
    (∃ lexicon : Lexicon, lexicon.categories? "naïve" = some ["adj"] ∧
      Lexicon.load archive ⟨"whole.json"⟩ = .ok lexicon ∧
      readData archive Lexicon.ofJson? ⟨"whole.json"⟩ = .ok lexicon) ∧
    Lexicon.load archive ⟨"cut.json"⟩ = .error (.malformedJson ⟨"cut.json"⟩) ∧
    readData archive Lexicon.ofJson? ⟨"cut.json"⟩ = .error (.unreadable ⟨"cut.json"⟩ .invalidText) := by
  have found : archive.find ⟨"whole.json"⟩ = .ok (.file "\x7b\"naïve\":[\"adj\"]\x7d".toUTF8) := rfl
  obtain ⟨sameLexicons, _, agree, _⟩ := readers_agree_but_on_no_text archive ⟨"whole.json"⟩
  obtain ⟨_, _, _, _, differ⟩ := readers_agree_but_on_no_text archive ⟨"cut.json"⟩
  refine ⟨agree.2 ?_, ?_, differ _ archive_noText.2⟩
  · rintro _ (found' | ⟨found', invalid⟩)
    · cases found.symm.trans found'
    · cases found.symm.trans found'
      exact invalid _ rfl
  · have listed : (Lexicon.load archive ⟨"whole.json"⟩).toOption.bind (·.categories? "naïve") = some ["adj"] := by
      decide +kernel
    cases loaded : Lexicon.load archive ⟨"whole.json"⟩ with
    | error failure => simp [loaded, Except.toOption] at listed
    | ok lexicon =>
      rw [loaded] at listed
      exact ⟨lexicon, listed, rfl, (sameLexicons lexicon).1 loaded⟩

/-- The reader of saved lexicons blames the JSON of a directory, and of bytes that are no text. -/
theorem archive_readers_differ : ¬ ReadersAgree archive ⟨"lexicon.json"⟩ ∧ ¬ ReadersAgree archive ⟨"cut.json"⟩ :=
  ⟨fun agree => readersAgree_iff.1 agree _ archive_noText.1, fun agree => readersAgree_iff.1 agree _ archive_noText.2⟩

end Wordbook
