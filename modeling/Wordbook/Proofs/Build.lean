import Wordbook.CommandLine.Execution
import Wordbook.Proofs.Job
import Wordbook.Proofs.Lexicon.RoundTrip

/-! What a build does to the tree. All that it reads it reads first, and the write is the last step that can fail, so a
build that fails has changed nothing: not when an input is missing or malformed, not when the noun classes contradict
one another, and not when the output cannot be written. A build that succeeds has changed one place, even when that is
one of its inputs. -/
namespace Wordbook
open Job CommandLine

variable {config : Config} {output : Path} {tree : FileTree} {summary : Summary}

/-- A build looks, writes once, and does nothing after that which could fail. -/
theorem spares_buildLexicon (config : Config) (output : Path) : Spares (buildLexicon config output) := by
  refine (looks_report _).bind_spares fun _ => (looks_consult _).bind_spares fun sources =>
    (looks_consult _).bind_spares fun (lexicon, stats) => ?_
  exact (spares_write _ _).bind_succeeds fun _ => (succeeds_report _).bind fun _ => succeeds_pure _

theorem spares_build (options : Options) : Spares options.build :=
  (looks_consult _).bind_spares fun _ => spares_buildLexicon _ _

/-- A build that succeeds, taken apart: what it has loaded, what it has made of it, and the write. -/
theorem ok_of_buildLexicon (done : ((buildLexicon config output).run tree).result = .ok summary) :
    ∃ sources lexicon stats, (Sources.load config tree).result = .ok sources ∧
      (assemble sources).result = .ok (lexicon, stats) ∧ summary = { output := output, stats := stats } ∧
      tree.write output lexicon.savedText = .ok ((buildLexicon config output).run tree).tree := by
  obtain ⟨_, _, done, afterReport⟩ := ok_of_run_bind done
  obtain ⟨sources, loaded, done, afterLoad⟩ := ok_of_run_bind done
  obtain ⟨⟨lexicon, stats⟩, assembled, done, afterAssembly⟩ := ok_of_run_bind done
  obtain ⟨_, saved, done, afterSave⟩ := ok_of_run_bind done
  cases done
  have same := afterReport.trans (afterLoad.trans (afterAssembly.trans afterSave))
  exact ⟨sources, lexicon, stats, loaded, assembled, rfl, (write_ok saved).trans (congrArg Except.ok same.symm)⟩

/-- A build succeeds exactly if its sources can be loaded and assembled and its output can be written. -/
theorem buildLexicon_ok_iff :
    ((buildLexicon config output).run tree).result = .ok summary ↔
      ∃ sources lexicon stats after, (Sources.load config tree).result = .ok sources ∧
        (assemble sources).result = .ok (lexicon, stats) ∧ summary = { output := output, stats := stats } ∧
        tree.write output lexicon.savedText = .ok after := by
  constructor
  · intro done
    obtain ⟨sources, lexicon, stats, loaded, assembled, same, written⟩ := ok_of_buildLexicon done
    exact ⟨sources, lexicon, stats, _, loaded, assembled, same, written⟩
  · rintro ⟨sources, lexicon, stats, after, loaded, assembled, rfl, written⟩
    have saved : (lexicon.save output).run tree = { log := [], result := .ok (), tree := after } := by
      simp only [Lexicon.save, Job.write, written]
    simp only [buildLexicon, bind, report, run_consult, Run.result_report, loaded, assembled, saved, run_pure]

/-- The exit code tells a build that failed from one that succeeded, and only a build can change anything. -/
theorem tree_of_exitCode (arguments : List String) (setting : Option String)
    (failed : (execute arguments setting tree).exitCode ≠ 0) : (execute arguments setting tree).tree = tree := by
  unfold execute at failed ⊢
  split at failed
  case h_1 => rfl
  case h_2 => rfl
  case h_3 options parsed =>
    dsimp only at failed ⊢
    split at failed
    case h_1 => exact absurd rfl failed
    case h_2 failure result => exact spares_build options tree failure result

/-- A build succeeds exactly if its sources can be loaded and assembled and its output can be written. If it fails, it
leaves the tree as it was. If it succeeds, it has changed the place that its output path leads to and no other: there,
in place of whatever file there was, is the text of the lexicon that is made of the sources as they were before. A run
of the program whose exit code is not zero leaves the tree as it was. -/
theorem build_changes_output_only (config : Config) (output : Path) (tree : FileTree) :
    (∀ summary, ((buildLexicon config output).run tree).result = .ok summary ↔
      ∃ sources lexicon stats after, (Sources.load config tree).result = .ok sources ∧
        (assemble sources).result = .ok (lexicon, stats) ∧ summary = { output := output, stats := stats } ∧
        tree.write output lexicon.savedText = .ok after) ∧
    (∀ failure, ((buildLexicon config output).run tree).result = .error failure →
      ((buildLexicon config output).run tree).tree = tree) ∧
    (∀ summary, ((buildLexicon config output).run tree).result = .ok summary →
      ∃ sources lexicon stats place, (Sources.load config tree).result = .ok sources ∧
        (assemble sources).result = .ok (lexicon, stats) ∧ summary = { output := output, stats := stats } ∧
        tree.locate output = .ok place ∧
        ((buildLexicon config output).run tree).tree.readText output = .ok lexicon.savedText ∧
        ((buildLexicon config output).run tree).tree.workingDirectory = tree.workingDirectory ∧
        ∀ other, other ≠ place → ((buildLexicon config output).run tree).tree.get? other = tree.get? other) ∧
    ∀ arguments setting, (execute arguments setting tree).exitCode ≠ 0 →
      (execute arguments setting tree).tree = tree := by
  refine ⟨fun summary => buildLexicon_ok_iff, spares_buildLexicon config output tree, fun summary done => ?_,
    tree_of_exitCode⟩
  obtain ⟨sources, lexicon, stats, loaded, assembled, same, written⟩ := ok_of_buildLexicon done
  obtain ⟨place, located, sameDirectory, _, others⟩ := FileTree.write_ok written
  exact ⟨sources, lexicon, stats, place, loaded, assembled, same, located,
    FileTree.readText_of_find (FileTree.find_write written), sameDirectory, others⟩

/-- A tree with the three tables and nothing else, and one word in them. -/
def shelf : FileTree := .ofList [
  (["irregular_noun_forms.json"], Entry.file "\x7b\x7d".toUTF8),
  (["irregular_verb_forms.json"], Entry.file "\x7b\x7d".toUTF8),
  (["indeclinable.json"], Entry.file "\x7b\"det\":\x7b\"The\":1\x7d\x7d".toUTF8)]

/-- The output may be an input under another path. It is read before it is replaced. -/
theorem shelf_overwritten :
    shelf.locate ({} : Config).indeclinablePath = shelf.locate ⟨"indeclinable.json"⟩ ∧
    ∃ (lexicon : Lexicon) (stats : Stats), stats.words = 1 ∧
      ((buildLexicon {} ⟨"indeclinable.json"⟩).run shelf).result =
        .ok { output := ⟨"indeclinable.json"⟩, stats := stats } ∧
      ((buildLexicon {} ⟨"indeclinable.json"⟩).run shelf).tree.readText ⟨"indeclinable.json"⟩ =
        .ok lexicon.savedText := by
  refine ⟨by decide +kernel, ?_⟩
  have done : ((buildLexicon {} ⟨"indeclinable.json"⟩).run shelf).result.toOption.map (·.stats.words) = some 1 := by
    decide +kernel
  cases result : ((buildLexicon {} ⟨"indeclinable.json"⟩).run shelf).result with
  | error failure => simp [result, Except.toOption] at done
  | ok summary =>
    rw [result] at done
    obtain ⟨_, lexicon, stats, _, _, _, rfl, _, text, _⟩ := (build_changes_output_only _ _ _).2.2.1 summary result
    exact ⟨lexicon, stats, Option.some.inj done, rfl, text⟩

end Wordbook
