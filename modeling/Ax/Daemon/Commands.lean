import Ax.Foundation.Program
import Ax.Daemon.Queue
import Ax.Daemon.WakeScheduler
import Ax.Daemon.TaskStore.Operations

/-!
# The daemon's state and its critical sections

The request handlers and the background passes of the daemon act on a registry, a message queue, a
task store and a wake scheduler, each behind a lock of its own.  A command is one critical section,
or one reading of the outside: the clock, the generator of unique ids, the terminal sessions.
Handlers are programs over these commands.

Main results:

- Theorem `exec_mail_of_isQuiet`: only the commands of the queue and of the
  scheduler touch inboxes and pending wakes.
-/

namespace Ax.Daemon

/-! ## The registry -/

/-- A registered workspace. -/
structure Entry where
  id : Nat
  name : String
  dir : String
  description : String
  statusText : String
  connectedAt : Timestamp
  configPath : String
  idleTimeout : Int
  lastActiveAt : Timestamp
deriving DecidableEq, Repr

structure Registry where
  nextId : Nat
  entries : KeyedMap String Entry Entry.name

namespace Registry

def new : Registry where
  nextId := 0
  entries := KeyedMap.empty

/-- `register_with_idle`: the new entry keeps the status text of the old one. -/
def registerWithIdle (r : Registry) (now : Timestamp)
    (workspace dir description configPath : String) (idleTimeout : Int) : Entry × Registry :=
  let entry : Entry :=
    { id := r.nextId + 1
      name := workspace
      dir := dir
      description := description
      statusText := ((r.entries.get workspace).map Entry.statusText).getD ""
      connectedAt := now
      configPath := configPath
      idleTimeout := idleTimeout
      lastActiveAt := now }
  (entry, ⟨r.nextId + 1, r.entries.put entry⟩)

def unregister (r : Registry) (workspace : String) : Registry :=
  { r with entries := r.entries.remove workspace }

/-- `unregister_if`: only the entry of the given connection is removed. -/
def unregisterIf (r : Registry) (workspace : String) (id : Nat) : Bool × Registry :=
  if (r.entries.get workspace).any fun entry => entry.id = id then
    (true, r.unregister workspace)
  else (false, r)

def touch (r : Registry) (workspace : String) (now : Timestamp) : Registry :=
  match r.entries.get workspace with
  | none => r
  | some entry => { r with entries := r.entries.put { entry with lastActiveAt := now } }

/-- `set_status_text`. -/
def setStatusText (r : Registry) (workspace text : String) (now : Timestamp) : Registry :=
  match r.entries.get workspace with
  | none => r
  | some entry =>
    { r with entries := r.entries.put { entry with statusText := text, lastActiveAt := now } }

end Registry

/-! ## Commands -/

structure HandlerCtx where
  registry : Registry
  queue : MessageQueue
  taskStore : TaskStore
  wakeScheduler : WakeMap

structure Reading where
  now : Timestamp
  uuid : String
  sessionExists : String → Bool
  isIdle : String → Bool
  axBin : Except String Unit
  write : WriteOutcome
  wake : Except String Unit
  interrupt : Except String Unit
  dispatch : Except String Unit
  spawn : Except String Unit

def Reading.storeEnv (r : Reading) (u : Unicode) : StoreEnv where
  unicode := u
  now := r.now
  write := r.write

inductive Cmd
  | now
  | newUuid
  | currentAxBin
  | sessionExists (workspace : String)
  | isIdle (workspace : String)
  | wakeWorkspace (workspace sender : String)
  | interruptWorkspace (workspace : String)
  | ensureRunnable (configPath target sender : String) (fresh : Bool)
  | spawnTaskWake (taskId configPath assignee sender : String)
  | register (workspace dir description configPath : String) (idleTimeout : Int)
  | unregister (workspace : String)
  | unregisterIf (workspace : String) (id : Nat)
  | registryGet (workspace : String)
  | registryNames
  | touch (workspace : String) (stamp : Timestamp)
  | setStatusText (workspace text : String)
  | enqueue (msg : Message)
  | dequeue (workspace : String) (limit : Nat) (sender : Option String)
  | pendingCount (workspace : String)
  | removeTaskMessages (workspace taskId : String)
  | hasTaskMessage (workspace taskId : String)
  | schedule (workspace sender : String)
  | cancelWake (workspace : String)
  | wakeState (workspace : String)
  | readyWakes
  | lockWakes
  | unlockWakes
  | ensureSession (workspace sender : String)
  | advanceAttempt (workspace : String) (result : Option (Except String Unit))
  | postpone (workspace : String)
  | createTask (input : CreateTaskInput)
  | updateTask (id : String) (a : UpdateArgs)
  | cancelTask (id reason workspace : String) (expectedVersion : Option Int)
  | removeTask (id reason workspace : String) (expectedVersion : Option Int)
  | retryTask (id note workspace : String) (expectedVersion : Option Int)
  | taskForIntervention (id workspace : String) (expectedVersion : Option Int)
  | getTask (id : String)
  | listTasks (assignee createdBy : String) (status : Option TaskStatus)
  | listSilentInProgress (stamp : Timestamp) (staleThreshold : Int)
  | runnableByAssignee (assignee : String)
  | recordDispatch (id recipient : String) (stamp : Timestamp)
  | markToolActivity (id by_ : String) (stamp : Timestamp)
  | recoverStaleInProgress

/-- What a command returns. -/
@[reducible]
def Cmd.Result : Cmd → Type
  | .now => Timestamp
  | .newUuid => String
  | .sessionExists _ | .isIdle _ | .ensureSession .. | .hasTaskMessage .. | .unregisterIf .. => Bool
  | .currentAxBin | .wakeWorkspace .. | .interruptWorkspace _ | .ensureRunnable ..
  | .spawnTaskWake .. => Except String Unit
  | .register .. => Entry
  | .registryGet _ => Option Entry
  | .registryNames => List String
  | .enqueue _ => Message
  | .dequeue .. => List Message
  | .pendingCount _ | .removeTaskMessages .. => Nat
  | .wakeState _ => Option PendingWake
  | .readyWakes => List PendingWake
  | .createTask _ | .updateTask .. | .cancelTask .. | .removeTask .. | .retryTask ..
  | .taskForIntervention .. => Except TaskStoreError Task
  | .getTask _ | .recordDispatch .. | .markToolActivity .. => Option Task
  | .listTasks .. | .listSilentInProgress .. | .runnableByAssignee _ => List Task
  | .recoverStaleInProgress => List String
  | .unregister _ | .touch .. | .setStatusText .. | .schedule .. | .cancelWake _ | .lockWakes
  | .unlockWakes | .advanceAttempt .. | .postpone _ => Unit

abbrev Program (α : Type) : Type :=
  Prog Cmd.Result α

abbrev perform (c : Cmd) : Program c.Result :=
  Prog.call c

/-- `ensure_pending_wake_target`: a live session will do; otherwise one is
started from the configuration of the first runnable task that names one. -/
def ensurePendingWakeTarget (d : HandlerCtx) (r : Reading) (workspace : String) : Bool :=
  let workspace := Text.trim workspace
  if workspace = "" then false
  else if r.sessionExists workspace then true
  else
    match (d.taskStore.runnableByAssignee workspace r.now).find?
        fun task => Text.trim task.dispatchConfigPath ≠ "" with
    | none => false
    | some _ => r.dispatch.isOk

def Cmd.exec (u : Unicode) (r : Reading) (d : HandlerCtx) : (c : Cmd) → c.Result × HandlerCtx
  | .now => (r.now, d)
  | .newUuid => (r.uuid, d)
  | .currentAxBin => (r.axBin, d)
  | .sessionExists workspace => (r.sessionExists workspace, d)
  | .isIdle workspace => (r.isIdle workspace, d)
  | .wakeWorkspace .. => (r.wake, d)
  | .interruptWorkspace _ => (r.interrupt, d)
  | .ensureRunnable .. => (r.dispatch, d)
  | .spawnTaskWake .. => (r.spawn, d)
  | .register workspace dir description configPath idleTimeout =>
    let next :=
      d.registry.registerWithIdle r.now workspace dir description configPath idleTimeout
    (next.1, { d with registry := next.2 })
  | .unregister workspace => ((), { d with registry := d.registry.unregister workspace })
  | .unregisterIf workspace id =>
    let next := d.registry.unregisterIf workspace id
    (next.1, { d with registry := next.2 })
  | .registryGet workspace => (d.registry.entries.get workspace, d)
  | .registryNames => (d.registry.entries.values.map Entry.name, d)
  | .touch workspace stamp => ((), { d with registry := d.registry.touch workspace stamp })
  | .setStatusText workspace text =>
    ((), { d with registry := d.registry.setStatusText workspace text r.now })
  | .enqueue msg =>
    let next := d.queue.enqueue r.now r.uuid msg
    (next.1, { d with queue := next.2 })
  | .dequeue workspace limit sender =>
    let next := d.queue.dequeue workspace limit sender
    (next.1, { d with queue := next.2 })
  | .pendingCount workspace => (d.queue.pendingCount workspace, d)
  | .removeTaskMessages workspace taskId =>
    let next := d.queue.removeTaskMessages u workspace taskId
    (next.1, { d with queue := next.2 })
  | .hasTaskMessage workspace taskId => (d.queue.hasTaskMessage u workspace taskId, d)
  | .schedule workspace sender =>
    ((), { d with wakeScheduler := d.wakeScheduler.schedule r.now workspace sender })
  | .cancelWake workspace => ((), { d with wakeScheduler := d.wakeScheduler.cancel workspace })
  | .wakeState workspace => (d.wakeScheduler.get workspace, d)
  | .readyWakes => (d.wakeScheduler.ready r.now, d)
  | .lockWakes | .unlockWakes => ((), d)
  | .ensureSession workspace _ => (ensurePendingWakeTarget d r workspace, d)
  | .advanceAttempt workspace result =>
    ((), { d with wakeScheduler := d.wakeScheduler.advanceAttempt r.now workspace result })
  | .postpone workspace =>
    ((), { d with wakeScheduler := d.wakeScheduler.postpone r.now workspace })
  | .createTask input =>
    let next := d.taskStore.create (r.storeEnv u) r.uuid input
    (next.1, { d with taskStore := next.2 })
  | .updateTask id a =>
    let next := d.taskStore.updateWithConfirm (r.storeEnv u) id a
    (next.1, { d with taskStore := next.2 })
  | .cancelTask id reason workspace expectedVersion =>
    let next := d.taskStore.cancel (r.storeEnv u) id reason workspace expectedVersion
    (next.1, { d with taskStore := next.2 })
  | .removeTask id reason workspace expectedVersion =>
    let next := d.taskStore.remove (r.storeEnv u) id reason workspace expectedVersion
    (next.1, { d with taskStore := next.2 })
  | .retryTask id note workspace expectedVersion =>
    let next := d.taskStore.retry (r.storeEnv u) id note workspace expectedVersion
    (next.1, { d with taskStore := next.2 })
  | .taskForIntervention id workspace expectedVersion =>
    (d.taskStore.getForIntervention id workspace expectedVersion, d)
  | .getTask id => (d.taskStore.inner.get id, d)
  | .listTasks assignee createdBy status => (d.taskStore.list assignee createdBy status, d)
  | .listSilentInProgress stamp staleThreshold =>
    (d.taskStore.listSilentInProgress stamp staleThreshold, d)
  | .runnableByAssignee assignee => (d.taskStore.runnableByAssignee assignee r.now, d)
  | .recordDispatch id recipient stamp =>
    let next := d.taskStore.recordDispatch (r.storeEnv u) id recipient stamp
    (next.1, { d with taskStore := next.2 })
  | .markToolActivity id by_ stamp =>
    let next := d.taskStore.markToolActivity (r.storeEnv u) id by_ stamp
    (next.1, { d with taskStore := next.2 })
  | .recoverStaleInProgress =>
    let next := d.taskStore.recoverStaleInProgress (r.storeEnv u) r.sessionExists
    (next.1, { d with taskStore := next.2 })

def Cmd.isQuiet : Cmd → Bool
  | .enqueue _ | .dequeue .. | .removeTaskMessages .. | .schedule .. | .cancelWake _
  | .advanceAttempt .. | .postpone _ => false
  | _ => true

def HandlerCtx.mail (d : HandlerCtx) : MessageQueue × WakeMap :=
  (d.queue, d.wakeScheduler)

/-- Only the commands of the queue and of the scheduler touch inboxes and pending
wakes. -/
theorem exec_mail_of_isQuiet {u : Unicode} {r : Reading} {d : HandlerCtx} {c : Cmd}
    (h : c.isQuiet = true) : (c.exec u r d).2.mail = d.mail := by
  cases c <;> first
    | rfl
    | cases h

/-! ## A new daemon -/

def newCtx : HandlerCtx where
  registry := .new
  queue := .new
  taskStore := ⟨none, KeyedMap.empty, .absent⟩
  wakeScheduler := KeyedMap.empty

/-- Nothing answers and every write succeeds; only the session of `bob` exists. -/
def calmReading : Reading where
  now := 0
  uuid := "00000000-0000-4000-8000-000000000000"
  sessionExists := fun w => w = "bob"
  isIdle := fun _ => false
  axBin := .ok ()
  write := .done
  wake := .ok ()
  interrupt := .ok ()
  dispatch := .ok ()
  spawn := .ok ()

/-! ## Programs in isolation -/

structure Sim where
  ctx : HandlerCtx
  tape : Nat → Reading

/-- The same daemon one reading later. -/
def Sim.tick (s : Sim) : Sim :=
  { s with tape := fun n => s.tape (n + 1) }

/-- A command uses up one reading. -/
def Sim.exec (u : Unicode) (c : Cmd) (s : Sim) : c.Result × Sim :=
  let next := c.exec u (s.tape 0) s.ctx
  (next.1, { s.tick with ctx := next.2 })

end Ax.Daemon
