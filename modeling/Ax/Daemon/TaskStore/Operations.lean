import Mathlib.Data.List.Dedup
import Mathlib.Data.List.Sort
import Ax.Foundation.AtomicFile
import Ax.Daemon.TaskStore.Rollup

/-!
# Task store operations

The store's operations as functions from a store to an answer and a store.  An
operation holds the store's lock from its first read to its last write, so it
is one step.  Its clock reading and the outcome of its write to the state file
come from the environment.  The records in memory are changed before the file
is written: an operation that fails to persist reports the failure and keeps
its effect.
-/

namespace Ax.Daemon

structure StoreEnv where
  unicode : Unicode
  now : Timestamp
  write : WriteOutcome

structure TaskStore where
  filePath : Option String
  inner : TaskMap
  file : FileContent (List Task)

structure CreateTaskInput where
  title : String
  description : String
  assignee : String
  createdBy : String
  parentTaskId : String
  startMode : TaskStartMode
  workflowMode : TaskWorkflowMode
  priority : TaskPriority
  staleAfterSeconds : Int
  dispatchBody : String
  dispatchConfigPath : String
deriving DecidableEq, Repr

namespace TaskStore

def inMemory : TaskStore where
  filePath := none
  inner := KeyedMap.empty
  file := .absent

def recordsOf (tasks : List Task) : TaskMap :=
  tasks.foldl (fun inner task => inner.put (clearDerivedFields task)) KeyedMap.empty

/-- Read the records of the state file found at `path`. -/
def decodeFile (path : String) : FileContent (List Task) → Except TaskStoreError TaskMap
  | .absent => .ok KeyedMap.empty
  | .unreadable source => .error (.read path source)
  | .undecodable source => .error (.decode path source)
  | .holds tasks => .ok (recordsOf tasks)

/-- Load the store of a state directory from `tasks-state.json`, or else from
the legacy `tasks.json`.  Later writes go to `tasks-state.json`. -/
def load (stateDir : String) (primary legacy : FileContent (List Task)) :
    Except TaskStoreError TaskStore :=
  let primaryPath := stateDir ++ "/tasks-state.json"
  let records :=
    if primary = .absent then decodeFile (stateDir ++ "/tasks.json") legacy
    else decodeFile primaryPath primary
  records.map fun inner => ⟨some primaryPath, inner, primary⟩

def persistLocked (env : StoreEnv) (s : TaskStore) : Except TaskStoreError Unit × TaskStore :=
  match s.filePath with
  | none => (.ok (), s)
  | some _ =>
    let written :=
      { s with file := s.file.replace env.write (s.inner.values.map clearDerivedFields) }
    match env.write with
    | .done => (.ok (), written)
    | .encodeFailed source => (.error (.encode source), written)
    | .writeFailed reason => (.error (.persist reason), written)

@[simp]
lemma persistLocked_inner (env : StoreEnv) (s : TaskStore) :
    (persistLocked env s).2.inner = s.inner := by
  unfold persistLocked
  split
  · rfl
  · dsimp only
    split <;> rfl

@[simp]
lemma persistLocked_filePath (env : StoreEnv) (s : TaskStore) :
    (persistLocked env s).2.filePath = s.filePath := by
  unfold persistLocked
  split
  · rfl
  · dsimp only
    split <;> rfl

/-- Install the changed records, persist them and answer with the current
record of `task`; it is stored, so the default is never used. -/
def commit (env : StoreEnv) (s : TaskStore) (inner : TaskMap) (task : Task) :
    Except TaskStoreError Task × TaskStore :=
  let persisted := persistLocked env { s with inner := inner }
  (persisted.1.map fun _ => (inner.get task.id).getD task, persisted.2)

@[simp]
lemma commit_inner (env : StoreEnv) (s : TaskStore) (inner : TaskMap) (task : Task) :
    (commit env s inner task).2.inner = inner := by
  simp [commit]

lemma commit_error {env : StoreEnv} {s : TaskStore} {inner : TaskMap} {task : Task}
    {e : TaskStoreError} (h : (commit env s inner task).1 = .error e) :
    (∃ source, e = .encode source) ∨ ∃ reason, e = .persist reason := by
  unfold commit persistLocked at h
  dsimp only at h
  split at h
  · cases h
  · split at h
    · cases h
    · cases h
      exact .inl ⟨_, rfl⟩
    · cases h
      exact .inr ⟨_, rfl⟩

def storeAndRefresh (inner : TaskMap) (task : Task) (now : Timestamp) : TaskMap :=
  refreshParentRollup (inner.put task) task.parentTaskId now

/-! ## Creation -/

def newTask (now : Timestamp) (id : String) (input : CreateTaskInput) : Task where
  id := id
  title := input.title
  description := input.description
  assignee := input.assignee
  createdBy := input.createdBy
  parentTaskId := Text.trim input.parentTaskId
  childTaskIds := []
  version := 1
  status := .pending
  startMode := input.startMode
  workflowMode := some input.workflowMode
  priority := some input.priority
  staleAfterSeconds := input.staleAfterSeconds
  dispatchMessage :=
    if Text.trim input.dispatchBody = "" then ""
    else formatTaskDispatchMessage id (Text.trim input.dispatchBody)
  dispatchConfigPath := Text.trim input.dispatchConfigPath
  dispatchCount := 0
  attemptCount := 0
  lastDispatchAt := none
  lastAttemptAt := none
  nextRetryAt := none
  claimedAt := none
  claimedBy := ""
  claimSource := ""
  result := ""
  logs := []
  rollup := none
  sequence := none
  staleInfo := none
  removedAt := none
  removedBy := ""
  removeReason := ""
  createdAt := now
  updatedAt := now

def adoptChild (now : Timestamp) (parent : Task) (childId : String) : Task :=
  if parent.childTaskIds.any (fun id => id = childId) then parent
  else bump now { parent with childTaskIds := parent.childTaskIds ++ [childId] }

def create (env : StoreEnv) (id : String) (input : CreateTaskInput) (s : TaskStore) :
    Except TaskStoreError Task × TaskStore :=
  let task := newTask env.now id input
  let inner := s.inner.put task
  if task.parentTaskId = "" then commit env s inner task
  else
    match inner.get task.parentTaskId with
    | none => (.error (.parentNotFound task.parentTaskId), { s with inner := inner.remove id })
    | some parent =>
      if parent.removedAt.isSome then
        (.error (.parentRemoved task.parentTaskId), { s with inner := inner.remove id })
      else
        let adopted := inner.put (adoptChild env.now parent id)
        commit env s (refreshParentRollup adopted task.parentTaskId env.now) task

/-! ## Updates and control -/

def updateWithConfirm (env : StoreEnv) (id : String) (a : UpdateArgs) (s : TaskStore) :
    Except TaskStoreError Task × TaskStore :=
  match s.inner.get id with
  | none => (.error (.notFound id), s)
  | some task =>
    match validateTaskUpdate task a with
    | .error e => (.error e, s)
    | .ok _ =>
      let updated := applyUpdate env.unicode env.now a task
      if updated.2 then
        let task' := bump env.now updated.1
        commit env s (storeAndRefresh s.inner task' env.now) task'
      else (.ok task, s)

def statusDebug : TaskStatus → String
  | .pending => "Pending"
  | .inProgress => "InProgress"
  | .blocked => "Blocked"
  | .completed => "Completed"
  | .failed => "Failed"
  | .cancelled => "Cancelled"

def cancel (env : StoreEnv) (id reason workspace : String) (expectedVersion : Option Int)
    (s : TaskStore) : Except TaskStoreError Task × TaskStore :=
  match s.inner.get id with
  | none => (.error (.notFound id), s)
  | some task =>
    match validateTaskControl task workspace expectedVersion true with
    | .error e => (.error e, s)
    | .ok _ =>
      if isTerminalStatus task.status then
        (.error (.alreadyTerminal id (Text.toAsciiLowercase (statusDebug task.status))), s)
      else
        let task' := cancelRecord env.now reason workspace task
        commit env s (storeAndRefresh s.inner task' env.now) task'

def remove (env : StoreEnv) (id reason workspace : String) (expectedVersion : Option Int)
    (s : TaskStore) : Except TaskStoreError Task × TaskStore :=
  match s.inner.get id with
  | none => (.error (.notFound id), s)
  | some task =>
    match validateTaskControl task workspace expectedVersion false with
    | .error e => (.error e, s)
    | .ok _ =>
      if task.removedAt.isSome then (.ok task, s)
      else if isTerminalStatus task.status = false then
        (.error (.notTerminalForRemove id), s)
      else
        let task' := removeRecord env.now reason workspace task
        commit env s (storeAndRefresh s.inner task' env.now) task'

def isOpenStatus (status : TaskStatus) : Bool :=
  status = .pending || status = .inProgress || status = .blocked

def retry (env : StoreEnv) (id note workspace : String) (expectedVersion : Option Int)
    (s : TaskStore) : Except TaskStoreError Task × TaskStore :=
  match s.inner.get id with
  | none => (.error (.notFound id), s)
  | some task =>
    match validateTaskControl task workspace expectedVersion true with
    | .error e => (.error e, s)
    | .ok _ =>
      if isOpenStatus task.status = false then (.error (.notRetryable id), s)
      else
        let task' := retryRecord env.now note workspace task
        commit env s (storeAndRefresh s.inner task' env.now) task'

def getForIntervention (id workspace : String) (expectedVersion : Option Int) (s : TaskStore) :
    Except TaskStoreError Task :=
  match s.inner.get id with
  | none => .error (.notFound id)
  | some task =>
    match validateTaskControl task workspace expectedVersion true with
    | .error e => .error e
    | .ok _ => if isOpenStatus task.status = false then .error (.notRetryable id) else .ok task

/-! ## Heartbeats and dispatches -/

def storeQuietly (env : StoreEnv) (s : TaskStore) (task : Task) : Option Task × TaskStore :=
  (some task, (persistLocked env { s with inner := s.inner.put task }).2)

def markToolActivity (env : StoreEnv) (id by_ : String) (when_ : Timestamp) (s : TaskStore) :
    Option Task × TaskStore :=
  match s.inner.get id with
  | none => (none, s)
  | some task =>
    if task.removedAt.isSome ∨ task.status ≠ .inProgress ∨ task.assignee ≠ by_ then (none, s)
    else storeQuietly env s (toolActivityRecord (effectiveStamp env.now when_) task)

def recordDispatch (env : StoreEnv) (id recipient : String) (when_ : Timestamp) (s : TaskStore) :
    Option Task × TaskStore :=
  match s.inner.get id with
  | none => (none, s)
  | some task =>
    if task.removedAt.isSome ∨ task.assignee ≠ recipient then (none, s)
    else storeQuietly env s (dispatchRecord (effectiveStamp env.now when_) task)

/-! ## Recovery -/

def isStaleInProgress (isSessionLive : String → Bool) (task : Task) : Bool :=
  task.removedAt.isNone && task.status = .inProgress && task.assignee ≠ "" &&
    !isSessionLive task.assignee

def recoverOne (u : Unicode) (now : Timestamp) (acc : TaskMap × List String) (id : String) :
    TaskMap × List String :=
  match acc.1.get id with
  | none => acc
  | some task =>
    (acc.1.put (recoverRecord u now task),
      if task.parentTaskId = "" then acc.2 else acc.2 ++ [task.parentTaskId])

def recoverCandidates (isSessionLive : String → Bool) (inner : TaskMap) : List String :=
  (inner.values.filter (isStaleInProgress isSessionLive)).map Task.id

def recoverAll (u : Unicode) (now : Timestamp) (candidates : List String) (inner : TaskMap) :
    TaskMap :=
  let reset := candidates.foldl (recoverOne u now) (inner, [])
  -- In sorted order all repetitions of an id are adjacent.
  let parents := (reset.2.insertionSort (· ≤ ·)).dedup
  parents.foldl (fun all parentId => refreshParentRollup all parentId now) reset.1

def recoverStaleInProgress (env : StoreEnv) (isSessionLive : String → Bool) (s : TaskStore) :
    List String × TaskStore :=
  let candidates := recoverCandidates isSessionLive s.inner
  if candidates = [] then ([], s)
  else
    let inner := recoverAll env.unicode env.now candidates s.inner
    (candidates, (persistLocked env { s with inner := inner }).2)

/-! ## Readers -/

def list (assignee createdBy : String) (status : Option TaskStatus) (s : TaskStore) : List Task :=
  s.inner.values.filter fun task =>
    if task.removedAt.isSome then false
    else if assignee ≠ "" ∧ task.assignee ≠ assignee then false
    else if createdBy ≠ "" ∧ task.createdBy ≠ createdBy then false
    else status.all (fun want => task.status = want)

/-- Running tasks that nobody has touched for `staleThreshold`. -/
def listSilentInProgress (now : Timestamp) (staleThreshold : Int) (s : TaskStore) : List Task :=
  s.inner.values.filter fun task =>
    if task.removedAt.isSome ∨ task.status ≠ .inProgress ∨ task.assignee = "" then false
    else staleThreshold ≤ now - task.updatedAt

/-- Tasks that were dispatched to `assignee` and wait to be claimed. -/
def runnableByAssignee (assignee : String) (now : Timestamp) (s : TaskStore) : List Task :=
  s.inner.values.filter fun task =>
    if task.removedAt.isSome ∨ task.assignee ≠ assignee then false
    else if task.status ≠ .pending ∨ task.lastDispatchAt.isNone ∨ task.claimedAt.isSome then false
    else task.nextRetryAt.all (fun retryAt => retryAt ≤ now)

end TaskStore
end Ax.Daemon
