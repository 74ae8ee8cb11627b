import Ax.Foundation.Execution
import Ax.Daemon.Handlers

/-!
# The server

The background passes of the daemon, its start from a state directory, and the
runs in which requests, passes, flushes, stops and starts follow each other.
-/

namespace Ax.Daemon

/-! ## The wake pass -/

inductive WakeOutcome
  | drained
  | refused
  | ensured
  | postponed
  | woken
deriving DecidableEq, Repr

def refillBeforeWake (u : Unicode) (wake : PendingWake) : Program Unit := do
  let pending ← perform (.pendingCount wake.workspace)
  if pending = 0 then
    perform .lockWakes
    let _ ← refillRunnableTaskMessages u wake.workspace wake.sender
    perform .unlockWakes
  else return ()

def ensureBeforeWake (wake : PendingWake) : Program WakeOutcome := do
  let ensured ← perform (.ensureSession wake.workspace wake.sender)
  if ensured then
    perform (.advanceAttempt wake.workspace none)
    return .ensured
  else
    perform (.cancelWake wake.workspace)
    return .refused

def wakeWhenIdle (wake : PendingWake) : Program WakeOutcome := do
  let idle ← perform (.isIdle wake.workspace)
  if idle then
    let result ← perform (.wakeWorkspace wake.workspace wake.sender)
    perform (.advanceAttempt wake.workspace (some result))
    return .woken
  else
    perform (.postpone wake.workspace)
    return .postponed

def attemptWake (wake : PendingWake) : Program WakeOutcome := do
  let pending ← perform (.pendingCount wake.workspace)
  if pending = 0 then
    perform (.cancelWake wake.workspace)
    return .drained
  else
    let live ← perform (.sessionExists wake.workspace)
    if live then wakeWhenIdle wake else ensureBeforeWake wake

def processWake (u : Unicode) (wake : PendingWake) : Program WakeOutcome := do
  refillBeforeWake u wake
  attemptWake wake

def processDue (u : Unicode) (wake : PendingWake) : Program (String × WakeOutcome) := do
  let outcome ← processWake u wake
  return (wake.workspace, outcome)

/-- `WakeScheduler::process`, with what became of each due wake. -/
def process (u : Unicode) : Program (List (String × WakeOutcome)) := do
  let ready ← perform .readyWakes
  Prog.mapM (processDue u) ready

/-! ## The reconcile pass -/

/-- `SILENT_TASK_STALE_THRESHOLD_SECS`. -/
def silentTaskStaleThreshold : Int :=
  seconds 180

/-- `SILENT_TASK_NUDGE_CAP`. -/
def silentTaskNudgeCap : Int :=
  5

/-- `SILENT_TASK_NUDGE_NOTE`. -/
def silentTaskNudgeNote : String :=
  "Assignee looks idle but the task is still `in_progress`. " ++
  "Call one of the task-lifecycle MCP tools instead of leaving it open: " ++
  "`report_task_progress` (heartbeat with a note), " ++
  "`report_task_completion` (done — supply `dirty_files` and optional `residual_scope`), " ++
  "`report_task_failed` (hard error with `reason`), or " ++
  "`report_task_blocked` (need external help — optional `needs_help_from`)."

def nudge (u : Unicode) (now : Timestamp) (task : Task) : Program Unit := do
  let stamp ← perform .now
  let _ ← perform (.enqueue (taskAwareMessage u stamp "reconciler" task.assignee
    (buildTaskReminderMessage task silentTaskNudgeNote)))
  let _ ← perform (.recordDispatch task.id task.assignee now)
  perform (.schedule task.assignee "reconciler")

def nudgeIfIdle (u : Unicode) (now : Timestamp) (task : Task) : Program Unit :=
  if silentTaskNudgeCap ≤ task.dispatchCount then return ()
  else do
    let live ← perform (.sessionExists task.assignee)
    if live then
      let idle ← perform (.isIdle task.assignee)
      if idle then
        let pending ← perform (.pendingCount task.assignee)
        if 0 < pending then return () else nudge u now task
      else return ()
    else return ()

/-- The recovery pass of `reconcile_once`. -/
def recoverPass : Program Unit := do
  let _ ← perform .recoverStaleInProgress
  return ()

/-- The nudges of `reconcile_once`. -/
def nudgePass (u : Unicode) : Program Unit := do
  let now ← perform .now
  let tasks ← perform (.listSilentInProgress now silentTaskStaleThreshold)
  let _ ← Prog.mapM (nudgeIfIdle u now) tasks
  return ()

/-! ## Start and stop -/

/-- What the daemon keeps in its state directory, as far as it is modelled. -/
structure Disk where
  tasks : FileContent (List Task)
  legacyTasks : FileContent (List Task)
  queue : FileContent (List (String × Option (List Message)))

structure StartReading where
  now : Timestamp
  sessionExists : String → Bool
  write : WriteOutcome
  sharedValues : Except String Unit
  memories : Except String Unit
  teamStates : Except String Unit
  history : Except String Unit

def StartReading.storeEnv (r : StartReading) (u : Unicode) : StoreEnv where
  unicode := u
  now := r.now
  write := r.write

inductive World
  | stopped (disk : Disk)
  | running (legacyTasks : FileContent (List Task)) (ctx : HandlerCtx)

/-- `with_state_dir` and `bind`.  The tasks are recovered, and written back, before
the later stores are loaded; no wake is pending at first. -/
def start (u : Unicode) (stateDir : String) (r : StartReading) (disk : Disk) : World :=
  if r.sharedValues.isOk && r.memories.isOk then
    match TaskStore.load stateDir disk.tasks disk.legacyTasks with
    | .error _ => .stopped disk
    | .ok loaded =>
      let taskStore := (loaded.recoverStaleInProgress (r.storeEnv u) r.sessionExists).2
      let disk' := { disk with tasks := taskStore.file }
      if r.teamStates.isOk then
        match MessageQueue.load stateDir disk.queue with
        | .error _ => .stopped disk'
        | .ok queue =>
          if r.history.isOk then
            .running disk.legacyTasks
              { registry := Registry.new
                queue := queue
                taskStore := taskStore
                wakeScheduler := KeyedMap.empty }
          else .stopped disk'
      else .stopped disk'
  else .stopped disk

/-! ## Runs -/

inductive Job
  | request (req : Request)
  | disconnect (workspace : String) (id : Nat)
  | elsewhere (workspace : String)
  | wakePass
  | recoverPass
  | nudgePass

def Job.program (u : Unicode) : Job → Program Unit
  | .request req => do
      let _ ← handle u req
      return ()
  | .disconnect workspace id => do
      let _ ← handleDisconnect workspace id
      return ()
  | .elsewhere workspace => touchNow workspace
  | .wakePass => do
      let _ ← process u
      return ()
  | .recoverPass => Daemon.recoverPass
  | .nudgePass => Daemon.nudgePass u

def Job.result (u : Unicode) (job : Job) (tape : Nat → Reading) (d : HandlerCtx) : HandlerCtx :=
  ((job.program u).run (Sim.exec u) ⟨d, tape⟩).2.ctx

inductive Event
  | run (job : Job) (tape : Nat → Reading)
  | flush (write : WriteOutcome)
  | stop
  | start (r : StartReading)

namespace World

def next (u : Unicode) (stateDir : String) : World → Event → Option World
  | .running legacy d, .run job tape => some (.running legacy (job.result u tape d))
  | .running legacy d, .flush write =>
    some (.running legacy { d with queue := (d.queue.flush write).2 })
  | .running legacy d, .stop => some (.stopped ⟨d.taskStore.file, legacy, d.queue.file⟩)
  | .stopped disk, .start r => some (Daemon.start u stateDir r disk)
  | .running .., .start _ | .stopped _, .run .. | .stopped _, .flush _ | .stopped _, .stop => none

def Step (u : Unicode) (stateDir : String) (w : World) (e : Event) (w' : World) : Prop :=
  w.next u stateDir e = some w'

end World
end Ax.Daemon
