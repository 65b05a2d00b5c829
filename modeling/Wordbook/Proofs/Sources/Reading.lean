import Mathlib.Data.List.Forall2
import Wordbook.Proofs.Writing
import Wordbook.Sources.Load

/-! Reading data files one after the other. A file is sound if it is text that spells a value of its kind. Reading a
list of files comes to their values if all of them are sound, and otherwise to the fault of the first one that is not;
and what holds of two readings holds of the one followed by the other. -/
namespace Wordbook

/-- A file that is to be read, and the JSON values that stand for something in it. -/
structure Input where
  file : Path
  accepts : Json → Bool

/-- A file of the kind that a decoder is for. -/
def Input.of {α : Type} (ofJson? : Json → Option α) (file : Path) : Input where
  file := file
  accepts json := (ofJson? json).isSome

/-- A file is text that is one JSON value. -/
def Spells (tree : FileTree) (file : Path) (json : Json) : Prop :=
  ∃ text, tree.find file = .ok (.file text.toUTF8) ∧ Json.parse? text = some json

/-- A file stands for a value of its kind. -/
def StandsFor {α : Type} (tree : FileTree) (ofJson? : Json → Option α) (file : Path) (value : α) : Prop :=
  ∃ json, Spells tree file json ∧ ofJson? json = some value

/-- A file can be read and is of its kind. -/
def Sound (tree : FileTree) (input : Input) : Prop := ∃ json, Spells tree input.file json ∧ input.accepts json = true

/-- What is wrong with a file. -/
inductive Faulty (tree : FileTree) (input : Input) : Failure → Prop
  | lost {fault : Fault} : tree.find input.file = .error fault → Faulty tree input (.unreadable input.file fault)
  | directory : tree.find input.file = .ok .directory → Faulty tree input (.unreadable input.file .isADirectory)
  | binary {content : ByteArray} : tree.find input.file = .ok (.file content) →
      (∀ text : String, content ≠ text.toUTF8) → Faulty tree input (.unreadable input.file .invalidText)
  | malformed {text : String} : tree.find input.file = .ok (.file text.toUTF8) →
      (∀ json, Json.parse? text = some json → input.accepts json = false) →
      Faulty tree input (.malformedJson input.file)

/-- The first file of a list that is not sound. -/
inductive FirstUnsound (tree : FileTree) : List Input → Input → Prop
  | here {input : Input} {rest : List Input} : ¬ Sound tree input → FirstUnsound tree (input :: rest) input
  | later {input found : Input} {rest : List Input} : Sound tree input → FirstUnsound tree rest found →
      FirstUnsound tree (input :: rest) found

/-- What is wrong with the first file of a list that is not sound. -/
def FirstFault (tree : FileTree) (inputs : List Input) (failure : Failure) : Prop :=
  ∃ input, FirstUnsound tree inputs input ∧ Faulty tree input failure

/-- A result is what reading a list of files comes to: something that is expected of their values if all are sound, and
otherwise the fault of the first one that is not. -/
def Answers {α : Type} (tree : FileTree) (inputs : List Input) (result : Except Failure α) (expected : α → Prop) :
    Prop :=
  match result with
  | .ok value => (∀ input ∈ inputs, Sound tree input) ∧ expected value
  | .error failure => FirstFault tree inputs failure

variable {α β ι : Type} {tree : FileTree} {file : Path} {ofJson? : Json → Option α} {value value' : α}
variable {json json' : Json} {failure : Failure} {input found other : Input} {inputs before rest : List Input}
variable {result : Except Failure α}
variable {expected : α → Prop} {next : α → Except Failure β} {expectedNext : β → Prop}

/-! ## One file -/

theorem Spells.unique (spells : Spells tree file json) (spells' : Spells tree file json') : json = json' := by
  obtain ⟨text, there, parsed⟩ := spells
  obtain ⟨text', there', parsed'⟩ := spells'
  have contents : text.toUTF8 = text'.toUTF8 := by simpa [there] using there'
  rw [String.toByteArray_inj.1 contents, parsed'] at parsed
  exact (Option.some.inj parsed).symm

theorem StandsFor.unique (stands : StandsFor tree ofJson? file value) (stands' : StandsFor tree ofJson? file value') :
    value = value' := by
  obtain ⟨json, spells, decoded⟩ := stands
  obtain ⟨json', spells', decoded'⟩ := stands'
  cases spells.unique spells'
  exact Option.some.inj (decoded.symm.trans decoded')

theorem StandsFor.sound (stands : StandsFor tree ofJson? file value) : Sound tree (.of ofJson? file) := by
  obtain ⟨json, spells, decoded⟩ := stands
  exact ⟨json, spells, by simp [Input.of, decoded]⟩

theorem sound_of_find {text : String} (found : tree.find file = .ok (.file text.toUTF8))
    (reads : ((Json.parse? text).bind ofJson?).isSome = true) : Sound tree (.of ofJson? file) := by
  obtain ⟨value, read⟩ := Option.isSome_iff_exists.1 reads
  obtain ⟨json, parsed, decoded⟩ := Option.bind_eq_some_iff.1 read
  have stands : StandsFor tree ofJson? file value := ⟨json, ⟨text, found, parsed⟩, decoded⟩
  exact stands.sound

theorem StandsFor.located (stands : StandsFor tree ofJson? file value) : ∃ place, tree.locate file = .ok place := by
  obtain ⟨_, ⟨_, found, _⟩, _⟩ := stands
  obtain ⟨place, located, _⟩ := FileTree.ok_of_bind found
  exact ⟨place, located⟩

theorem Sound.isFile (sound : Sound tree input) : tree.isFile input.file = true := by
  obtain ⟨json, ⟨text, there, _⟩, _⟩ := sound
  rw [FileTree.isFile, there]

/-- A file that something is wrong with is not sound. -/
theorem Faulty.not_sound (faulty : Faulty tree input failure) : ¬ Sound tree input := by
  rintro ⟨json, ⟨text, there, parsed⟩, accepted⟩
  cases faulty with
  | lost gone => cases there.symm.trans gone
  | directory found => cases there.symm.trans found
  | binary found invalid =>
    cases there.symm.trans found
    exact invalid text rfl
  | @malformed text' found rejected =>
    have contents : text'.toUTF8 = text.toUTF8 := by simpa [found] using there
    rw [← String.toByteArray_inj.1 contents] at parsed
    simp [rejected json parsed] at accepted

/-- A fault is the failure to read a file or to make sense of it, and names the file. -/
theorem Faulty.names (faulty : Faulty tree input failure) :
    (∃ fault, failure = .unreadable input.file fault) ∨ failure = .malformedJson input.file := by
  cases faulty with
  | lost | directory | binary => exact .inl ⟨_, rfl⟩
  | malformed => exact .inr rfl

theorem Faulty.file_eq (faulty : Faulty tree input failure) (faulty' : Faulty tree other failure) :
    input.file = other.file := by
  rcases faulty.names with ⟨fault, rfl⟩ | rfl <;> simpa using faulty'.names

theorem readData_eq (tree : FileTree) (ofJson? : Json → Option α) (file : Path) :
    readData tree ofJson? file =
      match tree.find file with
      | .error fault => .error (.unreadable file fault)
      | .ok .directory => .error (.unreadable file .isADirectory)
      | .ok (.file content) =>
        match String.fromUTF8? content with
        | none => .error (.unreadable file .invalidText)
        | some text =>
          match (Json.parse? text).bind ofJson? with
          | some value => .ok value
          | none => .error (.malformedJson file) := by
  simp only [readData, FileTree.readText, FileTree.readBytes, bind, Except.bind]
  cases tree.find file with
  | error fault => rfl
  | ok entry =>
    cases entry with
    | directory => rfl
    | file content =>
      dsimp only
      cases String.fromUTF8? content <;> rfl

/-- Reading a file comes to the value that it stands for, or to its fault. -/
theorem answers_readData (tree : FileTree) (ofJson? : Json → Option α) (file : Path) :
    Answers tree [.of ofJson? file] (readData tree ofJson? file) (StandsFor tree ofJson? file) := by
  have fault {failure : Failure} (faulty : Faulty tree (.of ofJson? file) failure) :
      FirstFault tree [.of ofJson? file] failure := ⟨_, .here faulty.not_sound, faulty⟩
  rw [readData_eq]
  split
  case h_1 reason found => exact fault (.lost found)
  case h_2 found => exact fault (.directory found)
  case h_3 content found =>
    split
    case h_1 undecoded =>
      refine fault (.binary found fun text same => ?_)
      rw [fromUTF8?_eq_some_iff.2 same] at undecoded
      cases undecoded
    case h_2 text decoded =>
      cases fromUTF8?_eq_some_iff.1 decoded
      split
      case h_1 value read =>
        obtain ⟨json, parsed, decoded⟩ := Option.bind_eq_some_iff.1 read
        have stands : StandsFor tree ofJson? file value := ⟨json, ⟨text, found, parsed⟩, decoded⟩
        exact ⟨by simpa using stands.sound, stands⟩
      case h_2 unread =>
        refine fault (.malformed found fun json parsed => ?_)
        simpa [Input.of, parsed] using unread

/-! ## The first fault of a list -/

theorem FirstUnsound.not_sound (first : FirstUnsound tree inputs input) : ¬ Sound tree input := by
  induction first with
  | here unsound => exact unsound
  | later _ _ ih => exact ih

theorem FirstUnsound.mem (first : FirstUnsound tree inputs input) : input ∈ inputs := by
  induction first with
  | here => exact List.mem_cons_self
  | later _ _ ih => exact List.mem_cons_of_mem _ ih

theorem FirstUnsound.unique (first : FirstUnsound tree inputs input) (first' : FirstUnsound tree inputs other) :
    input = other := by
  induction first with
  | here unsound =>
    cases first' with
    | here => rfl
    | later sound => exact absurd sound unsound
  | later sound _ ih =>
    cases first' with
    | here unsound => exact absurd sound unsound
    | later _ first' => exact ih first'

theorem FirstUnsound.append_left (first : FirstUnsound tree inputs input) :
    FirstUnsound tree (inputs ++ rest) input := by
  induction first with
  | here unsound => exact .here unsound
  | later sound _ ih => exact .later sound ih

theorem FirstUnsound.append_right (sound : ∀ input ∈ before, Sound tree input) (first : FirstUnsound tree rest found) :
    FirstUnsound tree (before ++ rest) found := by
  induction before with
  | nil => exact first
  | cons input before ih =>
    obtain ⟨here, later⟩ := List.forall_mem_cons.1 sound
    exact .later here (ih later)

theorem FirstUnsound.of_append (first : FirstUnsound tree (before ++ rest) found) :
    FirstUnsound tree before found ∨ (∀ input ∈ before, Sound tree input) ∧ FirstUnsound tree rest found := by
  induction before with
  | nil => exact .inr ⟨by simp, first⟩
  | cons input before ih =>
    cases first with
    | here unsound => exact .inl (.here unsound)
    | later sound first =>
      rcases ih first with within | ⟨all, behind⟩
      · exact .inl (.later sound within)
      · exact .inr ⟨List.forall_mem_cons.2 ⟨sound, all⟩, behind⟩

/-- Leaving out files of which none is sound leaves the first one that is not, unless it is left out itself. -/
theorem FirstUnsound.filter {kept : Input → Bool} (keeps : ∀ input, Sound tree input → kept input = true)
    (first : FirstUnsound tree inputs found) (keptFound : kept found = true) :
    FirstUnsound tree (inputs.filter kept) found := by
  induction first with
  | here unsound =>
    rw [List.filter_cons_of_pos keptFound]
    exact .here unsound
  | later sound _ ih =>
    rw [List.filter_cons_of_pos (keeps _ sound)]
    exact .later sound (ih keptFound)

theorem exists_firstUnsound (unsound : ¬ ∀ input ∈ inputs, Sound tree input) :
    ∃ input, FirstUnsound tree inputs input := by
  induction inputs with
  | nil => simp at unsound
  | cons input rest ih =>
    by_cases sound : Sound tree input
    · obtain ⟨found, first⟩ := ih fun later => unsound (List.forall_mem_cons.2 ⟨sound, later⟩)
      exact ⟨found, .later sound first⟩
    · exact ⟨input, .here sound⟩

/-! ## Several files -/

theorem answers_pure (holds : expected value) : Answers tree [] (.ok value) expected := ⟨by simp, holds⟩

theorem Answers.mono {weaker : α → Prop} (answers : Answers tree inputs result expected)
    (weakens : ∀ value, expected value → weaker value) : Answers tree inputs result weaker := by
  cases result with
  | error failure => exact answers
  | ok value => exact ⟨answers.1, weakens value answers.2⟩

theorem Answers.ok_iff (answers : Answers tree inputs result expected) :
    (∃ value, result = .ok value) ↔ ∀ input ∈ inputs, Sound tree input := by
  cases result with
  | ok value => exact ⟨fun _ => answers.1, fun _ => ⟨value, rfl⟩⟩
  | error failure =>
    obtain ⟨input, first, _⟩ := answers
    constructor
    · rintro ⟨_, done⟩
      cases done
    · exact fun sound => absurd (sound input first.mem) first.not_sound

theorem sound_iff_isOk : Sound tree (.of ofJson? file) ↔ (readData tree ofJson? file).isOk = true := by
  have reads := (answers_readData tree ofJson? file).ok_iff
  rw [List.forall_mem_singleton] at reads
  rw [← reads]
  cases readData tree ofJson? file <;> simp [Except.isOk, Except.toBool]

theorem Answers.of_ok (answers : Answers tree inputs result expected) (done : result = .ok value) : expected value := by
  subst done
  exact answers.2

theorem Answers.of_error (answers : Answers tree inputs result expected) (failed : result = .error failure) :
    FirstFault tree inputs failure := by
  subst failed
  exact answers

/-- What is read in a sequence is what its first part reads, followed by what its second part reads. -/
theorem Answers.bind (answers : Answers tree inputs result expected)
    (answersNext : ∀ value, expected value → Answers tree rest (next value) expectedNext) :
    Answers tree (inputs ++ rest) (result >>= next) expectedNext := by
  cases result with
  | error failure =>
    obtain ⟨input, first, faulty⟩ := answers
    exact ⟨input, first.append_left, faulty⟩
  | ok value =>
    obtain ⟨sound, holds⟩ := answers
    have answersRest := answersNext value holds
    change Answers tree (inputs ++ rest) (next value) expectedNext
    cases following : next value with
    | error failure =>
      rw [following] at answersRest
      obtain ⟨input, first, faulty⟩ := answersRest
      exact ⟨input, first.append_right sound, faulty⟩
    | ok last =>
      rw [following] at answersRest
      exact ⟨List.forall_mem_append.2 ⟨sound, answersRest.1⟩, answersRest.2⟩

/-- And so it is with reports in between. -/
theorem Answers.run_bind {run : Run α} {next : α → Run β} (answers : Answers tree inputs run.result expected)
    (answersNext : ∀ value, expected value → Answers tree rest (next value).result expectedNext) :
    Answers tree (inputs ++ rest) (run >>= next).result expectedNext := by
  rw [Run.result_bind]
  exact answers.bind answersNext

/-- A list of files is read one file after the other. -/
theorem answers_mapM {input : ι → Input} {read : ι → Except Failure β} {good : ι → β → Prop}
    (each : ∀ item, Answers tree [input item] (read item) (good item)) (items : List ι) :
    Answers tree (items.map input) (items.mapM read) (List.Forall₂ good items) := by
  induction items with
  | nil => exact answers_pure .nil
  | cons item rest ih =>
    rw [List.mapM_cons]
    refine (each item).bind fun value holds => ?_
    rw [← List.append_nil (rest.map input)]
    exact ih.bind fun values all => answers_pure (.cons holds all)

end Wordbook
