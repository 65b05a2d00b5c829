import Mathlib.Data.List.Basic
import Wordbook.Inflection.Regular

/-! Words with the same regular form. Every rule puts the same letter last, an `s` or a `d`, so two words have the same
form just if their forms agree in front of it. There a word stands unchanged, with an `e` behind it, or with `ie` in the
place of a `y`; two words that are treated alike are the same, and two that are not can agree in a few ways only. -/
namespace Wordbook.Inflection

/-- A word ends in a hissing sound. -/
def Hisses (word : String) : Prop := ∃ front, ∃ ending ∈ ["s", "sh", "ch", "x"], word = front ++ ending

/-- A stem behind which a final `y` changes: it has a last letter, and this is no vowel. -/
def Hard (stem : String) : Prop := ∃ letter ∈ stem.toList.getLast?, letter ∉ ['a', 'e', 'i', 'o', 'u']

/-- A word ends in a `y` that changes. -/
def ChangesY (word : String) : Prop := ∃ stem, Hard stem ∧ word = stem ++ "y"

/-- A word ends in an `e`. -/
def EndsInE (word : String) : Prop := ∃ front, word = front ++ "e"

/-- The words with the same form in `s` as a word to which the rules do not just add an `s`. -/
inductive SFormTwin (word : String) : String → Prop
  | sibilant (hisses : Hisses word) : SFormTwin word (word ++ "e")
  | changedY {stem : String} (hard : Hard stem) (ends : word = stem ++ "y") : SFormTwin word (stem ++ "ie")

/-- The words with the same past tense as a word to which the rules do not just add a `d`. -/
inductive PreteriteTwin (word : String) : String → Prop
  | addedE (noE : ¬ EndsInE word) (keepsY : ¬ ChangesY word) : PreteriteTwin word (word ++ "e")
  | changedY {stem : String} (hard : Hard stem) (ends : word = stem ++ "y") : PreteriteTwin word (stem ++ "ie")
  | changedYBare {stem : String} (hard : Hard stem) (ends : word = stem ++ "y") : PreteriteTwin word (stem ++ "i")

variable {word other stem : String}

/-! ## Endings -/

theorem endsIn_iff {ending : String} : endsIn word ending = true ↔ ∃ front, word = front ++ ending := by
  rw [endsIn, List.isSuffixOf_iff_suffix]
  constructor
  · rintro ⟨letters, spelled⟩
    exact ⟨String.ofList letters, String.toList_injective (by simp [spelled])⟩
  · rintro ⟨front, rfl⟩
    exact ⟨front.toList, by simp⟩

theorem endsInSibilant_iff : endsInSibilant word = true ↔ Hisses word := by
  simp only [endsInSibilant, List.any_eq_true, endsIn_iff, Hisses]
  constructor
  · rintro ⟨ending, listed, front, spelled⟩
    exact ⟨front, ending, listed, spelled⟩
  · rintro ⟨front, ending, listed, spelled⟩
    exact ⟨ending, listed, front, spelled⟩

theorem endsInConsonantY_iff : endsInConsonantY word = true ↔ ChangesY word := by
  have vowel (letter : Char) : isVowel letter = false ↔ letter ∉ ['a', 'e', 'i', 'o', 'u'] := by
    simp [isVowel, and_assoc]
  constructor
  · intro changes
    unfold endsInConsonantY at changes
    split at changes
    case h_1 before rest backwards =>
      have letters : word.toList = rest.reverse ++ [before] ++ ['y'] := by
        simpa using congrArg List.reverse backwards
      have hard := (vowel before).1 (by simpa using changes)
      exact ⟨String.ofList (rest.reverse ++ [before]), ⟨before, by simp, hard⟩,
        String.toList_injective (by simp [letters])⟩
    case h_2 => cases changes
  · rintro ⟨stem, ⟨letter, last, hard⟩, rfl⟩
    obtain ⟨front, letters⟩ := List.getLast?_eq_some_iff.1 last
    simp [endsInConsonantY, letters, (vowel letter).2 hard]

@[simp] theorem dropLast_append_y (stem : String) : dropLast (stem ++ "y") = stem := by
  simp [dropLast]

/-- The last letter of a word that ends in a hissing sound. -/
theorem Hisses.last (hisses : Hisses word) : word.toList.getLast? ∈ [some 's', some 'h', some 'x'] := by
  obtain ⟨front, ending, listed, rfl⟩ := hisses
  simp only [List.mem_cons, List.not_mem_nil, or_false] at listed
  rcases listed with rfl | rfl | rfl | rfl <;> simp

theorem ChangesY.last (changes : ChangesY word) : word.toList.getLast? = some 'y' := by
  obtain ⟨stem, _, rfl⟩ := changes
  simp

theorem EndsInE.last (ends : EndsInE word) : word.toList.getLast? = some 'e' := by
  obtain ⟨front, rfl⟩ := ends
  simp

/-! ## The forms, rule by rule -/

theorem not_hisses_of_last {letter : Char} (last : word.toList.getLast? = some letter)
    (other : letter ∉ ['s', 'h', 'x']) : ¬ Hisses word := by
  intro hisses
  have among := hisses.last
  simp_all

theorem sForm_of_hisses (hisses : Hisses word) : sForm word = word ++ "e" ++ "s" := by
  rw [sForm, if_pos (endsInSibilant_iff.2 hisses), String.append_assoc]
  rfl

theorem sForm_of_hard (hard : Hard stem) : sForm (stem ++ "y") = stem ++ "ie" ++ "s" := by
  have changes : ChangesY (stem ++ "y") := ⟨stem, hard, rfl⟩
  have quiet : ¬ Hisses (stem ++ "y") := not_hisses_of_last changes.last (by decide)
  rw [sForm, if_neg (mt endsInSibilant_iff.1 quiet), if_pos (endsInConsonantY_iff.2 changes), dropLast_append_y,
    String.append_assoc]
  rfl

theorem sForm_of_plain (quiet : ¬ Hisses word) (keepsY : ¬ ChangesY word) : sForm word = word ++ "s" := by
  rw [sForm, if_neg (mt endsInSibilant_iff.1 quiet), if_neg (mt endsInConsonantY_iff.1 keepsY)]

theorem preterite_of_endsInE (ends : EndsInE word) : preterite word = word ++ "d" := by
  rw [preterite, if_pos (endsIn_iff.2 ends)]

theorem preterite_of_hard (hard : Hard stem) : preterite (stem ++ "y") = stem ++ "ie" ++ "d" := by
  have changes : ChangesY (stem ++ "y") := ⟨stem, hard, rfl⟩
  have noE : ¬ EndsInE (stem ++ "y") := fun ends => by simpa using changes.last.symm.trans ends.last
  rw [preterite, if_neg (mt endsIn_iff.1 noE), if_pos (endsInConsonantY_iff.2 changes), dropLast_append_y,
    String.append_assoc]
  rfl

theorem preterite_of_plain (noE : ¬ EndsInE word) (keepsY : ¬ ChangesY word) :
    preterite word = word ++ "e" ++ "d" := by
  rw [preterite, if_neg (mt endsIn_iff.1 noE), if_neg (mt endsInConsonantY_iff.1 keepsY), String.append_assoc]
  rfl

/-- Behind an `e`, the rules just add an `s`, or a `d`. -/
theorem forms_append_e (word : String) :
    sForm (word ++ "e") = word ++ "e" ++ "s" ∧ preterite (word ++ "e") = word ++ "e" ++ "d" := by
  have ends : EndsInE (word ++ "e") := ⟨word, rfl⟩
  have keepsY : ¬ ChangesY (word ++ "e") := fun changes => by simpa using changes.last.symm.trans ends.last
  exact ⟨sForm_of_plain (not_hisses_of_last ends.last (by decide)) keepsY, preterite_of_endsInE ends⟩

/-! ## Twins -/

theorem append_ie (stem : String) : stem ++ "ie" = stem ++ "i" ++ "e" := by
  rw [String.append_assoc]
  rfl

theorem SFormTwin.sForm_eq (twin : SFormTwin word other) : sForm word = sForm other := by
  cases twin with
  | sibilant hisses => rw [sForm_of_hisses hisses, (forms_append_e word).1]
  | changedY hard ends => rw [ends, sForm_of_hard hard, append_ie, (forms_append_e _).1]

/-- If the rules just add an `s` to a word, another one with the same form has it for a twin. -/
theorem twin_of_plain_s (quiet : ¬ Hisses other) (keepsY : ¬ ChangesY other) (same : sForm word = sForm other) :
    word = other ∨ SFormTwin word other := by
  rw [sForm_of_plain quiet keepsY] at same
  by_cases hisses : Hisses word
  · rw [sForm_of_hisses hisses, String.append_left_inj] at same
    exact .inr (same ▸ .sibilant hisses)
  by_cases changes : ChangesY word
  · obtain ⟨stem, hard, rfl⟩ := changes
    rw [sForm_of_hard hard, String.append_left_inj] at same
    exact .inr (same ▸ .changedY hard rfl)
  · rw [sForm_of_plain hisses changes, String.append_left_inj] at same
    exact .inl same

/-- A word that hisses has not the form of one that changes its `y`: that would end in `ies`, with an `i` in the place of
the hissing sound. -/
theorem sForm_hisses_ne_hard (hisses : Hisses word) (hard : Hard stem) : sForm word ≠ sForm (stem ++ "y") := by
  rw [sForm_of_hisses hisses, sForm_of_hard hard, append_ie, Ne, String.append_left_inj, String.append_left_inj]
  rintro rfl
  have last : (stem ++ "i").toList.getLast? = some 'i' := by simp
  exact not_hisses_of_last last (by decide) hisses

theorem sForm_eq_iff : sForm word = sForm other ↔ word = other ∨ SFormTwin word other ∨ SFormTwin other word := by
  constructor
  · intro same
    by_cases plain : ¬ Hisses other ∧ ¬ ChangesY other
    · exact (twin_of_plain_s plain.1 plain.2 same).imp_right .inl
    by_cases plain' : ¬ Hisses word ∧ ¬ ChangesY word
    · exact (twin_of_plain_s plain'.1 plain'.2 same.symm).imp Eq.symm .inr
    rw [← not_or, not_not] at plain plain'
    left
    rcases plain' with hisses | ⟨stem, hard, rfl⟩ <;> rcases plain with hisses' | ⟨stem', hard', rfl⟩
    · rwa [sForm_of_hisses hisses, sForm_of_hisses hisses', String.append_left_inj, String.append_left_inj] at same
    · exact absurd same (sForm_hisses_ne_hard hisses hard')
    · exact absurd same.symm (sForm_hisses_ne_hard hisses' hard)
    · rw [sForm_of_hard hard, sForm_of_hard hard', String.append_left_inj, String.append_left_inj] at same
      rw [same]
  · rintro (rfl | twin | twin)
    · rfl
    · exact twin.sForm_eq
    · exact twin.sForm_eq.symm

theorem PreteriteTwin.preterite_eq (twin : PreteriteTwin word other) : preterite word = preterite other := by
  cases twin with
  | addedE noE keepsY => rw [preterite_of_plain noE keepsY, (forms_append_e word).2]
  | changedY hard ends => rw [ends, preterite_of_hard hard, append_ie, (forms_append_e _).2]
  | @changedYBare stem hard ends =>
    have last : (stem ++ "i").toList.getLast? = some 'i' := by simp
    have noE : ¬ EndsInE (stem ++ "i") := fun endsInE => by simpa using last.symm.trans endsInE.last
    have keepsY : ¬ ChangesY (stem ++ "i") := fun changes => by simpa using last.symm.trans changes.last
    rw [ends, preterite_of_hard hard, append_ie, preterite_of_plain noE keepsY]

/-- If the rules just add a `d` to a word, another one with the same past tense has it for a twin. -/
theorem twin_of_endsInE (ends : EndsInE other) (same : preterite word = preterite other) :
    word = other ∨ PreteriteTwin word other := by
  rw [preterite_of_endsInE ends] at same
  by_cases endsToo : EndsInE word
  · rw [preterite_of_endsInE endsToo, String.append_left_inj] at same
    exact .inl same
  by_cases changes : ChangesY word
  · obtain ⟨stem, hard, rfl⟩ := changes
    rw [preterite_of_hard hard, String.append_left_inj] at same
    exact .inr (same ▸ .changedY hard rfl)
  · rw [preterite_of_plain endsToo changes, String.append_left_inj] at same
    exact .inr (same ▸ .addedE endsToo changes)

/-- And so it is if they add an `ed`, unless the other one ends in an `e`. -/
theorem twin_of_plain_past (noE : ¬ EndsInE other) (keepsY : ¬ ChangesY other) (noE' : ¬ EndsInE word)
    (same : preterite word = preterite other) : word = other ∨ PreteriteTwin word other := by
  rw [preterite_of_plain noE keepsY] at same
  by_cases changes : ChangesY word
  · obtain ⟨stem, hard, rfl⟩ := changes
    rw [preterite_of_hard hard, append_ie, String.append_left_inj, String.append_left_inj] at same
    exact .inr (same ▸ .changedYBare hard rfl)
  · rw [preterite_of_plain noE' changes, String.append_left_inj, String.append_left_inj] at same
    exact .inl same

theorem preterite_eq_iff :
    preterite word = preterite other ↔ word = other ∨ PreteriteTwin word other ∨ PreteriteTwin other word := by
  constructor
  · intro same
    by_cases ends : EndsInE other
    · exact (twin_of_endsInE ends same).imp_right .inl
    by_cases ends' : EndsInE word
    · exact (twin_of_endsInE ends' same.symm).imp Eq.symm .inr
    by_cases changes : ChangesY other
    · by_cases changes' : ChangesY word
      · obtain ⟨stem, hard, rfl⟩ := changes
        obtain ⟨stem', hard', rfl⟩ := changes'
        rw [preterite_of_hard hard, preterite_of_hard hard', String.append_left_inj, String.append_left_inj] at same
        exact .inl (by rw [same])
      · exact (twin_of_plain_past ends' changes' ends same.symm).imp Eq.symm .inr
    · exact (twin_of_plain_past ends changes ends' same).imp_right .inl
  · rintro (rfl | twin | twin)
    · rfl
    · exact twin.preterite_eq
    · exact twin.preterite_eq.symm

/-- When two words fall together. They have the same form in `s` just if they are the same, or if the first of the two
hisses and the second has an `e` more, or if the first ends in a `y` behind a letter that is no vowel and the second in
`ie` in its place. They have the same past tense just if they are the same, or if the first neither ends in an `e` nor in
such a `y` and the second has an `e` more, or if the first ends in such a `y` and the second in `ie` or `i` in its
place. -/
theorem regular_forms_coincide_iff (word other : String) :
    (sForm word = sForm other ↔ word = other ∨ SFormTwin word other ∨ SFormTwin other word) ∧
    (preterite word = preterite other ↔ word = other ∨ PreteriteTwin word other ∨ PreteriteTwin other word) :=
  ⟨sForm_eq_iff, preterite_eq_iff⟩

end Wordbook.Inflection
