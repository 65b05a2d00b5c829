import Wordbook.Job

/-! What jobs do to the tree. A job that only looks leaves the tree alone, and a write that fails does too. So a job
that looks first, then writes once and cannot fail any more spares the tree whenever it fails, however many of its
steps could have. -/
namespace Wordbook.Job

variable {α β : Type} {first job : Job α} {next : α → Job β} {tree : FileTree} {value : β}

/-- A job leaves the tree as it was, whatever it comes to. -/
def Looks (job : Job α) : Prop := ∀ tree, (job.run tree).tree = tree

/-- A job that fails leaves the tree as it was. -/
def Spares (job : Job α) : Prop :=
  ∀ tree failure, (job.run tree).result = .error failure → (job.run tree).tree = tree

/-- A job never fails. -/
def Succeeds (job : Job α) : Prop := ∀ tree, ∃ value, (job.run tree).result = .ok value

theorem looks_consult (look : FileTree → Run α) : Looks (consult look) := fun _ => rfl

theorem looks_report (events : List Event) : Looks (report events) := looks_consult _

theorem succeeds_report (events : List Event) : Succeeds (report events) := fun _ => ⟨(), rfl⟩

theorem succeeds_pure (value : α) : Succeeds (pure value) := fun _ => ⟨value, rfl⟩

theorem Succeeds.bind (succeeds : Succeeds first) (nextSucceeds : ∀ value, Succeeds (next value)) :
    Succeeds (first >>= next) := by
  intro tree
  obtain ⟨value, result⟩ := succeeds tree
  rw [run_bind_of_ok result]
  exact nextSucceeds value _

/-- Looking before a job that spares the tree does no harm. -/
theorem Looks.bind_spares (looks : Looks first) (spares : ∀ value, Spares (next value)) : Spares (first >>= next) := by
  intro tree failure failed
  cases result : (first.run tree).result with
  | error stopped =>
    rw [run_bind_of_error result]
    exact looks tree
  | ok value =>
    rw [run_bind_of_ok result, looks tree] at failed ⊢
    exact spares value tree failure failed

/-- What follows a job that spares the tree must not fail, as the tree may be another one by then. -/
theorem Spares.bind_succeeds (spares : Spares first) (succeeds : ∀ value, Succeeds (next value)) :
    Spares (first >>= next) := by
  intro tree failure failed
  cases result : (first.run tree).result with
  | error stopped =>
    rw [run_bind_of_error result]
    exact spares tree stopped result
  | ok value =>
    rw [run_bind_of_ok result] at failed
    obtain ⟨_, done⟩ := succeeds value (first.run tree).tree
    rw [done] at failed
    cases failed

/-- A write that fails has no effect. -/
theorem spares_write (file : Path) (text : String) : Spares (write file text) := by
  intro tree failure failed
  unfold write at failed ⊢
  dsimp only at failed ⊢
  split at failed
  · cases failed
  · rfl

/-- A sequence that succeeds, taken apart. -/
theorem ok_of_run_bind (done : ((job >>= next).run tree).result = .ok value) :
    ∃ middle, (job.run tree).result = .ok middle ∧
      ((next middle).run (job.run tree).tree).result = .ok value ∧
      ((job >>= next).run tree).tree = ((next middle).run (job.run tree).tree).tree := by
  cases result : (job.run tree).result with
  | error failure =>
    rw [run_bind_of_error result] at done
    cases done
  | ok middle =>
    rw [run_bind_of_ok result] at done ⊢
    exact ⟨middle, rfl, done, rfl⟩

/-- A write that succeeds has written. -/
theorem write_ok {file : Path} {text : String} (done : ((write file text).run tree).result = .ok ()) :
    tree.write file text = .ok ((write file text).run tree).tree := by
  unfold write at done ⊢
  dsimp only at done ⊢
  split at done
  · assumption
  · cases done

end Wordbook.Job
