import Wordbook.FileTree
import Wordbook.Run

/-! Jobs: computations on a tree of files. A job reports events, may fail, and always leaves a tree behind,
a failed job the tree as it was at that point. A job is put together from steps that only look at the tree
and from writes, so what it has done to the tree when it fails shows in the order of its steps. -/
namespace Wordbook

/-- What a job came to. -/
structure Job.Outcome (α : Type) where
  /-- The events, the first one first. -/
  log : List Event
  result : Except Failure α
  /-- The tree that the job left behind. -/
  tree : FileTree

/-- A computation on a tree of files. -/
structure Job (α : Type) where
  run : FileTree → Job.Outcome α

namespace Job

instance : Monad Job where
  pure value := { run := fun tree => { log := [], result := .ok value, tree := tree } }
  bind job next := { run := fun tree =>
    let first := job.run tree
    match first.result with
    | .error failure => { log := first.log, result := .error failure, tree := first.tree }
    | .ok value =>
      let second := (next value).run first.tree
      { second with log := first.log ++ second.log } }

variable {α β : Type}

/-- Looks at the tree and leaves it as it is. -/
def consult (look : FileTree → Run α) : Job α where
  run tree := { log := (look tree).log, result := (look tree).result, tree := tree }

/-- Reports events. -/
def report (events : List Event) : Job Unit := consult fun _ => .report events

/-- Writes a file. A write that fails has no effect. -/
def write (file : Path) (text : String) : Job Unit where
  run tree :=
    match tree.write file text with
    | .ok after => { log := [], result := .ok (), tree := after }
    | .error fault => { log := [], result := .error (.unreadable file fault), tree := tree }

@[simp] theorem run_pure (value : α) (tree : FileTree) :
    (pure value : Job α).run tree = { log := [], result := .ok value, tree := tree } := rfl

@[simp] theorem run_consult (look : FileTree → Run α) (tree : FileTree) :
    (consult look).run tree = { log := (look tree).log, result := (look tree).result, tree := tree } := rfl

/-- A sequence goes on from the tree that its first part left behind. -/
theorem run_bind_of_ok {job : Job α} {next : α → Job β} {tree : FileTree} {value : α}
    (done : (job.run tree).result = .ok value) :
    (job >>= next).run tree =
      { (next value).run (job.run tree).tree with
        log := (job.run tree).log ++ ((next value).run (job.run tree).tree).log } := by
  simp [bind, done]

/-- A sequence ends with its first part if that fails. -/
theorem run_bind_of_error {job : Job α} {next : α → Job β} {tree : FileTree} {failure : Failure}
    (failed : (job.run tree).result = .error failure) :
    (job >>= next).run tree =
      { log := (job.run tree).log, result := .error failure, tree := (job.run tree).tree } := by
  simp [bind, failed]

end Job

end Wordbook
