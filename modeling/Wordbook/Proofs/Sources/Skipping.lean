import Wordbook.Proofs.Sources.Listing

/-! What a load reports of files that it skips. Only the directory of the nouns has files that are skipped, those that
are the files of no class, and each is reported once, when its turn comes. So a load that succeeds has reported all of
them, and one that fails has reported those that came before the fault. -/
namespace Wordbook

/-- The file that an event reports as skipped. -/
def Event.skipped? : Event → Option Path
  | fileSkipped file => some file
  | _ => none

/-- The files that a log reports as skipped. -/
def skipped (log : List Event) : List Path := log.filterMap Event.skipped?

/-- A computation reports files as skipped in the given order: all of them if it succeeds, and the first ones if it
fails. -/
structure Skips {α : Type} (run : Run α) (files : List Path) : Prop where
  begins : skipped run.log <+: files
  complete : ∀ value, run.result = .ok value → skipped run.log = files

/-- The files of a directory that are the files of no class, given the names that count. -/
def nameless (names : Path → List FileName) (dir : Path) : List Path :=
  ((names dir).filter fun name => (FileName.className? name).isNone).map (fileIn dir)

variable {α β : Type} {run : Run α} {next : α → Run β} {files rest : List Path}

theorem Skips.bind (skips : Skips run files) (skipsNext : ∀ value, run.result = .ok value → Skips (next value) rest) :
    Skips (run >>= next) (files ++ rest) := by
  cases result : run.result with
  | error failure =>
    have stopped : run >>= next = { log := run.log, result := .error failure } := by simp only [Bind.bind, result]
    rw [stopped]
    refine ⟨skips.begins.trans (List.prefix_append _ _), fun value done => ?_⟩
    cases done
  | ok value =>
    have goesOn : run >>= next = { log := run.log ++ (next value).log, result := (next value).result } := by
      simp only [Bind.bind, result]
    have first : skipped run.log = files := skips.complete value result
    have log : skipped (run.log ++ (next value).log) = files ++ skipped (next value).log := by
      rw [← first, skipped, skipped, skipped, List.filterMap_append]
    obtain ⟨begins, complete⟩ := skipsNext value result
    rw [goesOn]
    refine ⟨?_, fun last done => ?_⟩
    · rw [log]
      exact (List.prefix_append_right_inj files).2 begins
    · rw [log, complete last done]

/-- What reports nothing of the kind in front of the rest makes no difference. -/
theorem Skips.behind (silent : Skips run []) (skipsNext : ∀ value, Skips (next value) rest) :
    Skips (run >>= next) rest :=
  silent.bind fun value _ => skipsNext value

theorem skips_of_log (silent : skipped run.log = []) : Skips run [] :=
  ⟨silent ▸ List.nil_prefix, fun _ _ => silent⟩

theorem skips_ofExcept (result : Except Failure α) : Skips (.ofExcept result) [] := skips_of_log rfl

theorem skips_pure (value : α) : Skips (pure value) [] := skips_of_log rfl

section Load
variable (tree : FileTree) (ofJson? : Json → Option α) (dir : Path) (config : Config)

theorem skips_scanDirectory : Skips (scanDirectory tree dir) [] := by
  refine skips_of_log ?_
  unfold scanDirectory
  split <;> rfl

theorem skips_loadClasses : Skips (loadClasses tree ofJson? dir) [] :=
  (skips_scanDirectory tree dir).behind fun _ => skips_ofExcept _

theorem skips_loadAllClasses (dirs : List Path) : Skips (loadAllClasses tree ofJson? dirs) [] := by
  induction dirs with
  | nil => exact skips_pure _
  | cons dir rest ih => exact (skips_loadClasses tree ofJson? dir).behind fun _ => ih.behind fun _ => skips_pure _

theorem skips_readNamed (listed : List FileName) :
    Skips (readNamed tree ofJson? dir listed) (nameless (fun _ => listed) dir) := by
  induction listed with
  | nil => exact skips_pure _
  | cons name rest ih =>
    rw [readNamed]
    cases named : FileName.className? name with
    | none =>
      have listed : nameless (fun _ => name :: rest) dir = [fileIn dir name] ++ nameless (fun _ => rest) dir := by
        simp [nameless, named]
      rw [listed]
      exact .bind ⟨List.prefix_refl _, fun _ _ => rfl⟩ fun _ _ => ih
    | some cls =>
      have same : nameless (fun _ => name :: rest) dir = nameless (fun _ => rest) dir ++ [] := by
        simp [nameless, named]
      rw [same]
      exact (skips_ofExcept _).behind fun _ => ih.bind fun _ _ => skips_pure _

theorem skips_loadNamedClasses : Skips (loadNamedClasses tree ofJson? dir) (nameless (reachedNames tree) dir) := by
  refine Skips.bind (skips_scanDirectory tree dir) fun names scanned => ?_
  cases (result_scanDirectory tree dir).symm.trans scanned
  rw [← List.append_nil (List.map _ _)]
  exact (skips_readNamed tree ofJson? dir _).bind fun _ _ => skips_pure _

/-- All that a load skips are files of the directory of the nouns. -/
theorem skips_load : Skips (Sources.load config tree) (nameless (reachedNames tree) config.nounsPath) := by
  unfold Sources.load
  refine (skips_ofExcept _).behind fun irregularNouns => ?_
  refine (skips_ofExcept _).behind fun irregularVerbs => ?_
  refine (skips_ofExcept _).behind fun indeclinable => ?_
  refine (skips_loadAllClasses tree _ _).behind fun verbs => ?_
  refine (skips_loadClasses tree _ _).behind fun adjectives => ?_
  refine (skips_loadClasses tree _ _).behind fun adverbs => ?_
  refine (skips_loadClasses tree _ _).behind fun prepositions => ?_
  rw [← List.append_nil (nameless _ _)]
  refine (skips_loadNamedClasses tree _ _).bind fun nouns _ => ?_
  exact .behind (skips_of_log rfl) fun _ => skips_pure _

end Load

end Wordbook
