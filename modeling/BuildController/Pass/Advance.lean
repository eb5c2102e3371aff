import BuildController.Observation
import BuildController.Pass.Start

/-! The pass over a build run: a new run is started, and one that was started takes over what its
task run reports. A run that is done never changes again. -/
namespace BuildController.BuildRun

/-- Takes over the progress of a task run, the loss of which is a failure. -/
def follow (run : BuildRun) (taskRun : String) : Pass BuildRun := do
  match ← Pass.send (.getTaskRun run.metadata.namespaceName taskRun) with
  | none => return run.failed (← Pass.readEnd) (.taskRunMissing taskRun)
  | some found => return Observation.observe (← Pass.readEnd) run found

/-- One pass over the named run. A run that no longer exists is left alone. -/
def advance (settings : Settings) (ns name : String) : Pass Unit := do
  match ← Pass.send (.getRun ns name) with
  | none => return ()
  | some run =>
    if run.status.isDone then return ()
    let next ← match run.status.taskRunName with
      | none => run.start settings
      | some taskRun => run.follow taskRun
    Pass.send (.updateRunStatus next)

end BuildController.BuildRun
