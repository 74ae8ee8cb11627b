import Mathlib.Algebra.GroupWithZero.Nat
import Ax.Proto.Payloads
import Ax.Daemon.Commands
import Ax.Daemon.Decisions

/-!
# Request handlers

The handlers of the requests about messages and tasks, command by command in
the order of the source.  What they only write to the history or push to open
connections is left out; so are the requests on other stores, which at most mark
a workspace as active.
-/

namespace Ax.Daemon

abbrev Handler : Type :=
  Program (Except String Response)

/-- `require_registered`. -/
def requireRegistered (workspace : String) : Except String Unit :=
  if workspace = "" then .error "not registered" else .ok ()

def touchNow (workspace : String) : Program Unit := do
  let stamp ← perform .now
  perform (.touch workspace stamp)

/-- `current_ax_bin`. -/
def currentAxBin : Program (Except String Unit) := do
  let found ← perform .currentAxBin
  return found.mapError fun e => s!"resolve current executable: {e}"

/-! ## Connections -/

/-- `handle_register`. -/
def handleRegister (payload : RegisterPayload) : Handler := do
  let _ ← perform (.register payload.workspace payload.dir payload.description
    payload.configPath (seconds (max 0 payload.idleTimeoutSeconds)))
  return .ok (.status "registered")

/-- `handle_unregister`. -/
def handleUnregister (workspace : String) : Handler := do
  if workspace ≠ "" then
    perform (.unregister workspace)
    return .ok (.status "unregistered")
  else return .ok (.status "unregistered")

/-- The end of a connection with the given registration. -/
def handleDisconnect (workspace : String) (id : Nat) : Program Bool :=
  perform (.unregisterIf workspace id)

/-- `handle_set_status`. -/
def handleSetStatus (workspace status : String) : Handler :=
  Prog.attempt (requireRegistered workspace) fun _ => do
    perform (.setStatusText workspace status)
    return .ok (.status "ok")

/-- `handle_record_mcp_tool_activity`. -/
def handleRecordMcpToolActivity (workspace : String) (payload : RecordMcpToolActivityPayload) :
    Handler :=
  Prog.attempt (requireRegistered workspace) fun _ => do
    if Text.trim payload.tool = "" then return .error "tool is required"
    else if payload.durationMs < 0 then return .error "duration_ms must be non-negative"
    else
      let stamp ← perform .now
      perform (.touch workspace stamp)
      let taskId := Text.trim payload.taskId
      if taskId = "" then return .ok (.status "recorded")
      else
        let _ ← perform (.markToolActivity taskId workspace stamp)
        return .ok (.status "recorded")

/-! ## Messages -/

def postMessage (sender recipient content : String) : Program Message := do
  let uuid ← perform .newUuid
  let stamp ← perform .now
  perform (.enqueue
    { id := "msg-" ++ uuid
      sender := sender
      recipient := recipient
      content := content
      taskId := ""
      createdAt := stamp })

/-- The message of a `send_message`, with the wake of its recipient. -/
def sendMessage (workspace to_ message : String) : Program Message := do
  let msg ← postMessage workspace to_ message
  perform (.touch workspace msg.createdAt)
  perform (.schedule to_ workspace)
  return msg

/-- `handle_send_message`. -/
def handleSendMessage (workspace : String) (payload : SendMessagePayload) : Handler := do
  let axBin ← currentAxBin
  Prog.attempt axBin fun _ =>
    Prog.attempt (requireRegistered workspace) fun _ =>
      match planSendMessage workspace payload.to_ payload.configPath with
      | .reject reason => return .error reason
      | .enqueue => do
          let msg ← sendMessage workspace payload.to_ payload.message
          return .ok (.sendMessage msg.id "sent")
      | .enqueueAndEnsureRunnable configPath => do
          let msg ← sendMessage workspace payload.to_ payload.message
          let dispatched ← perform (.ensureRunnable configPath payload.to_ workspace false)
          Prog.attempt
            (dispatched.mapError fun e => s!"dispatch {workspace} -> {payload.to_}: {e}")
            fun _ => return .ok (.sendMessage msg.id "sent")

def dispatchRecipients (configPath workspace : String) :
    List String → Program (Except String Unit)
  | [] => return .ok ()
  | recipient :: rest => do
      let dispatched ← perform (.ensureRunnable configPath recipient workspace false)
      Prog.attempt
        (dispatched.mapError fun e => s!"broadcast dispatch {workspace} -> {recipient}: {e}")
        fun _ => dispatchRecipients configPath workspace rest

/-- The message of a `broadcast` to one recipient, with the recipient's wake. -/
def broadcastTo (workspace message recipient : String) : Program Unit := do
  let _ ← postMessage workspace recipient message
  perform (.schedule recipient workspace)

/-- `handle_broadcast`. -/
def handleBroadcast (workspace : String) (payload : BroadcastPayload) : Handler := do
  let axBin ← currentAxBin
  Prog.attempt axBin fun _ =>
    Prog.attempt (requireRegistered workspace) fun _ => do
      let names ← perform .registryNames
      let recipients := names.filter fun name => name ≠ workspace
      let _ ← Prog.mapM (broadcastTo workspace payload.message) recipients
      touchNow workspace
      let configPath := Text.trim payload.configPath
      if configPath = "" then return .ok (.broadcast recipients recipients.length)
      else
        let dispatched ← dispatchRecipients configPath workspace recipients
        Prog.attempt dispatched fun _ => return .ok (.broadcast recipients recipients.length)

/-- `enqueue_task_message`: a message for the assignee of a task, counted as a
dispatch of the task. -/
def enqueueTaskMessage (u : Unicode) (task : Task) (sender content : String) :
    Program Message := do
  let stamp ← perform .now
  let msg ← perform (.enqueue (taskAwareMessage u stamp sender task.assignee content))
  let _ ← perform (.recordDispatch task.id msg.recipient msg.createdAt)
  return msg

def refillTask (u : Unicode) (workspace sender : String) (task : Task) : Program Nat := do
  let unread ← perform (.hasTaskMessage workspace task.id)
  if unread then return 0
  else
    let _ ← enqueueTaskMessage u task sender (taskDispatchContent task "")
    return 1

/-- `refill_runnable_task_messages`. -/
def refillRunnableTaskMessages (u : Unicode) (workspace sender : String) : Program Nat := do
  let tasks ← perform (.runnableByAssignee workspace)
  let counts ← Prog.mapM (refillTask u workspace sender) tasks
  return counts.sum

def cancelWakeIfDrained (workspace : String) : Program Unit := do
  let pending ← perform (.pendingCount workspace)
  if pending = 0 then perform (.cancelWake workspace) else return ()

def refillBeforeRead (u : Unicode) (workspace : String) : Program Unit := do
  let pending ← perform (.pendingCount workspace)
  if pending = 0 then
    let wake ← perform (.wakeState workspace)
    match wake with
    | none => return ()
    | some wake => do
        let _ ← refillRunnableTaskMessages u workspace wake.sender
        return ()
  else return ()

/-- `handle_read_messages`. -/
def handleReadMessages (u : Unicode) (workspace : String) (payload : ReadMessagesPayload) :
    Handler :=
  Prog.attempt (requireRegistered workspace) fun _ => do
    let limit := if payload.limit ≤ 0 then 10 else payload.limit.toNat
    refillBeforeRead u workspace
    let sender := if payload.from_ = "" then none else some payload.from_
    let messages ← perform (.dequeue workspace limit sender)
    touchNow workspace
    cancelWakeIfDrained workspace
    return .ok (.readMessages messages)

/-! ## Starting and creating tasks -/

def deliverTask (u : Unicode) (task : Task) (sender content : String) : Program Message := do
  let msg ← enqueueTaskMessage u task sender content
  perform (.schedule task.assignee sender)
  return msg

/-- `dispatch_config_path_for_workspace`. -/
def dispatchConfigPathForWorkspace (workspace : String) : Program String := do
  let entry ← perform (.registryGet (Text.trim workspace))
  return (entry.map fun entry => Text.trim entry.configPath).getD ""

/-- `dispatch_task_start`. -/
def dispatchTaskStart (u : Unicode) (task : Task) : Program (Except String TaskDispatch) :=
  match planTaskStartDispatch task with
  | .waitingForInput => return .ok ⟨"", "waiting_for_input"⟩
  | .skip reason => return .error s!"task {task.id} cannot be dispatched: {reason}"
  | .queue _ configPath => do
      let msg ← deliverTask u task task.createdBy task.dispatchMessage
      match configPath with
      | none => return .ok ⟨msg.id, "queued"⟩
      | some configPath => do
          let ensured ←
            perform (.ensureRunnable configPath task.assignee task.createdBy false)
          Prog.attempt
            (ensured.mapError fun e => s!"dispatch task {task.id} -> {task.assignee}: {e}")
            fun _ => return .ok ⟨msg.id, "queued"⟩

def createTaskInput (workspace : String) (payload : CreateTaskPayload)
    (options : TaskStartMode × TaskWorkflowMode × TaskPriority)
    (dispatchBody dispatchConfigPath : String) : CreateTaskInput where
  title := payload.title
  description := payload.description
  assignee := payload.assignee
  createdBy := workspace
  parentTaskId := payload.parentTaskId
  startMode := options.1
  workflowMode := options.2.1
  priority := options.2.2
  staleAfterSeconds := payload.staleAfterSeconds
  dispatchBody := dispatchBody
  dispatchConfigPath := dispatchConfigPath

def lifecycleOptions (u : Unicode) (payload : CreateTaskPayload) :
    Except String (TaskStartMode × TaskWorkflowMode × TaskPriority) :=
  (parseTaskLifecycleOptions payload.startMode payload.workflowMode payload.priority).mapError
    (TaskLifecycleError.message u)

def refreshedTask (id : String) (task : Task) : Program Task := do
  let found ← perform (.getTask id)
  return found.getD task

/-- `handle_start_task`. -/
def handleStartTask (u : Unicode) (workspace : String) (payload : StartTaskPayload) : Handler :=
  Prog.attempt (requireRegistered workspace) fun _ =>
    Prog.attempt (lifecycleOptions u payload.toCreateTaskPayload) fun options =>
      Prog.attempt
        ((normalizeTaskDispatchBody u payload.message).mapError (TaskDispatchError.message u))
        fun dispatchBody => do
          let configPath ← dispatchConfigPathForWorkspace workspace
          let created ← perform (.createTask
            (createTaskInput workspace payload.toCreateTaskPayload options dispatchBody configPath))
          Prog.attempt (created.mapError (TaskStoreError.message u)) fun task => do
            let dispatched ← dispatchTaskStart u task
            Prog.attempt dispatched fun dispatch => do
              touchNow workspace
              let task ← refreshedTask task.id task
              return .ok (.startTask task dispatch)

def dispatchCreatedTask (u : Unicode) (task : Task) : Program Task :=
  if shouldDispatchOperatorCreatedTask task then do
    let _ ← deliverTask u task task.createdBy (buildTaskReminderMessage task "")
    refreshedTask task.id task
  else return task

/-- `handle_create_task`. -/
def handleCreateTask (u : Unicode) (workspace : String) (payload : CreateTaskPayload) : Handler :=
  Prog.attempt (requireRegistered workspace) fun _ =>
    Prog.attempt (lifecycleOptions u payload) fun options => do
      let created ← perform (.createTask (createTaskInput workspace payload options "" ""))
      Prog.attempt (created.mapError (TaskStoreError.message u)) fun task => do
        let task ← dispatchCreatedTask u task
        touchNow workspace
        return .ok (.task task)

/-- `handle_get_task`. -/
def handleGetTask (u : Unicode) (id : String) : Handler := do
  let found ← perform (.getTask id)
  match found with
  | none => return .error s!"task {Text.debugStr u id} not found"
  | some task => return .ok (.task task)

/-- `handle_list_tasks`. -/
def handleListTasks (payload : ListTasksPayload) : Handler := do
  let tasks ← perform (.listTasks payload.assignee payload.createdBy payload.status)
  return .ok (.listTasks tasks)

/-! ## Closing tasks -/

/-- `enqueue_completion_contract_reminder`: the only message of the daemon that
comes without a wake. -/
def enqueueCompletionContractReminder (u : Unicode) (workspace taskId : String)
    (e : TaskStoreError) : Program Message := do
  let stamp ← perform .now
  perform (.enqueue
    (taskAwareMessage u stamp "ax-daemon" workspace (completionRefusalNotice u taskId e)))

/-- `notify_creator_of_terminal_status`. -/
def notifyCreatorOfTerminalStatus (u : Unicode) (task : Task) : Program Unit :=
  match terminalNoticeRecipient task with
  | none => return ()
  | some creator => do
      let stamp ← perform .now
      let _ ← perform (.enqueue
        (taskAwareMessage u stamp task.assignee creator (terminalNotice task)))
      perform (.schedule creator task.assignee)

def purgeTaskMessages (assignee taskId : String) : Program Unit := do
  let _ ← perform (.removeTaskMessages assignee taskId)
  cancelWakeIfDrained assignee

/-- `apply_task_state_followup`. -/
def applyTaskStateFollowup (u : Unicode) (task : Task) : Program Unit :=
  match planTaskStateFollowup task with
  | .none => return ()
  | .cleanupTerminal assignee taskId => do
      purgeTaskMessages assignee taskId
      notifyCreatorOfTerminalStatus u task

/-- The arguments that `handle_update_task` passes to the store. -/
def updateArgs (workspace : String) (payload : UpdateTaskPayload) : UpdateArgs where
  status := payload.status
  result := payload.result
  logMsg := payload.log
  confirm := payload.confirm
  workspace := workspace

/-- What follows a successful change of a task by `handle_update_task` or
`handle_cancel_task`. -/
def afterUpdate (u : Unicode) (workspace : String) (task : Task) : Handler := do
  touchNow workspace
  applyTaskStateFollowup u task
  return .ok (.task task)

/-- What follows a refused update. -/
def afterRefusal (u : Unicode) (workspace taskId : String) (e : TaskStoreError) : Handler :=
  if isCompletionRefusal e then do
    let _ ← enqueueCompletionContractReminder u workspace taskId e
    return .error (e.message u)
  else return .error (e.message u)

def settleUpdate (u : Unicode) (workspace taskId : String) :
    Except TaskStoreError Task → Handler
  | .error e => afterRefusal u workspace taskId e
  | .ok task => afterUpdate u workspace task

/-- `handle_update_task`. -/
def handleUpdateTask (u : Unicode) (workspace : String) (payload : UpdateTaskPayload) : Handler :=
  Prog.attempt (requireRegistered workspace) fun _ => do
    let updated ← perform (.updateTask payload.id (updateArgs workspace payload))
    settleUpdate u workspace payload.id updated

/-- `handle_cancel_task`. -/
def handleCancelTask (u : Unicode) (workspace : String) (payload : CloseTaskPayload) : Handler :=
  Prog.attempt (requireRegistered workspace) fun _ => do
    let cancelled ←
      perform (.cancelTask payload.id payload.reason workspace payload.expectedVersion)
    Prog.attempt (cancelled.mapError (TaskStoreError.message u)) (afterUpdate u workspace)

/-- `handle_remove_task`. -/
def handleRemoveTask (u : Unicode) (workspace : String) (payload : CloseTaskPayload) : Handler :=
  Prog.attempt (requireRegistered workspace) fun _ => do
    let removed ←
      perform (.removeTask payload.id payload.reason workspace payload.expectedVersion)
    Prog.attempt (removed.mapError (TaskStoreError.message u)) fun task => do
      touchNow workspace
      purgeTaskMessages task.assignee task.id
      return .ok (.task task)

/-! ## Interventions -/

/-- `ensure_task_wake_message`: the id of the new message, if one is needed. -/
def ensureTaskWakeMessage (u : Unicode) (task : Task) (sender : String) : Program String := do
  let unread ← perform (.hasTaskMessage task.assignee task.id)
  if unread then return ""
  else
    let msg ←
      enqueueTaskMessage u task sender (buildTaskReminderMessage task "wake requested")
    return msg.id

def queueTaskWake (u : Unicode) (task : Task) (assignee sender : String) : Program String := do
  let messageId ← ensureTaskWakeMessage u task sender
  perform (.schedule assignee sender)
  return messageId

/-- `dispatch_task_wake`. -/
def dispatchTaskWake (u : Unicode) (task : Task) (sender : String) :
    Program (Except String TaskDispatch) := do
  let live ← perform (.sessionExists task.assignee)
  match planTaskWake task live with
  | .ensureRunnable configPath assignee =>
    if live then do
      let woken ← perform (.wakeWorkspace assignee sender)
      return woken.map fun _ => ⟨"", "woken"⟩
    else do
      let messageId ← queueTaskWake u task assignee sender
      let spawned ← perform (.spawnTaskWake task.id configPath assignee sender)
      return (spawned.map fun _ => ⟨messageId, "queued"⟩).mapError
        fun e => s!"spawn background task wake: {e}"
  | .directWake assignee => do
      let woken ← perform (.wakeWorkspace assignee sender)
      return woken.map fun _ => ⟨"", "woken"⟩
  | .sessionMissing assignee =>
    return .error s!"workspace {Text.debugStr u assignee} is not running"

/-- The wake of `handle_intervene_task`. -/
def interveneWake (u : Unicode) (workspace action : String) (task : Task) :
    Program (Except String InterveneTaskResponse) := do
  let dispatched ← dispatchTaskWake u task workspace
  Prog.attempt dispatched fun dispatch => do
    let task ← refreshedTask task.id task
    return .ok ⟨task, action, dispatch.status, dispatch.messageId⟩

/-- The interrupt of `handle_intervene_task`. -/
def interveneInterrupt (u : Unicode) (action : String) (task : Task) :
    Program (Except String InterveneTaskResponse) := do
  let live ← perform (.sessionExists task.assignee)
  if live then do
    let interrupted ← perform (.interruptWorkspace task.assignee)
    return interrupted.map fun _ => ⟨task, action, "interrupted", ""⟩
  else return .error s!"workspace {Text.debugStr u task.assignee} is not running"

def redeliverTask (u : Unicode) (workspace note : String) (task retried : Task) :
    Program Message := do
  let _ ← perform (.removeTaskMessages task.assignee task.id)
  let msg ← enqueueTaskMessage u retried workspace
    (buildTaskReminderMessage retried (Text.trim note))
  perform (.schedule task.assignee workspace)
  return msg

/-- What follows a successful retry of `handle_intervene_task`. -/
def afterRetry (u : Unicode) (workspace : String) (payload : InterveneTaskPayload)
    (task retried : Task) : Program (Except String InterveneTaskResponse) := do
  let msg ← redeliverTask u workspace payload.note task retried
  let configPath := Text.trim retried.dispatchConfigPath
  if configPath = "" then
    let refreshed ← refreshedTask task.id retried
    return .ok ⟨refreshed, payload.action, "queued", msg.id⟩
  else
    let ensured ← perform (.ensureRunnable configPath task.assignee workspace false)
    Prog.attempt (ensured.mapError fun e => s!"retry dispatch task {task.id}: {e}") fun _ => do
      let refreshed ← refreshedTask task.id retried
      return .ok ⟨refreshed, payload.action, "queued", msg.id⟩

/-- The retry of `handle_intervene_task`. -/
def interveneRetry (u : Unicode) (workspace : String) (payload : InterveneTaskPayload)
    (task : Task) : Program (Except String InterveneTaskResponse) := do
  let result ← perform (.retryTask task.id payload.note workspace payload.expectedVersion)
  Prog.attempt (result.mapError (TaskStoreError.message u))
    (afterRetry u workspace payload task)

def interveneAction (u : Unicode) (workspace : String) (payload : InterveneTaskPayload)
    (task : Task) : Program (Except String InterveneTaskResponse) :=
  match planIntervention payload.action with
  | .wake => interveneWake u workspace payload.action task
  | .interrupt => interveneInterrupt u payload.action task
  | .retry => interveneRetry u workspace payload task
  | .invalid other => return .error s!"invalid intervene_task action {Text.debugStr u other}"

def interveneOn (u : Unicode) (workspace : String) (payload : InterveneTaskPayload)
    (task : Task) : Handler := do
  let outcome ← interveneAction u workspace payload task
  Prog.attempt outcome fun response => do
    touchNow workspace
    return .ok (.interveneTask response)

/-- `handle_intervene_task`. -/
def handleInterveneTask (u : Unicode) (workspace : String) (payload : InterveneTaskPayload) :
    Handler :=
  Prog.attempt (requireRegistered workspace) fun _ => do
    let found ← perform (.taskForIntervention payload.id workspace payload.expectedVersion)
    Prog.attempt (found.mapError (TaskStoreError.message u)) (interveneOn u workspace payload)

/-! ## Requests -/

inductive Request
  | register (payload : RegisterPayload)
  | unregister (workspace : String)
  | setStatus (workspace status : String)
  | recordMcpToolActivity (workspace : String) (payload : RecordMcpToolActivityPayload)
  | sendMessage (workspace : String) (payload : SendMessagePayload)
  | broadcast (workspace : String) (payload : BroadcastPayload)
  | readMessages (workspace : String) (payload : ReadMessagesPayload)
  | startTask (workspace : String) (payload : StartTaskPayload)
  | createTask (workspace : String) (payload : CreateTaskPayload)
  | getTask (id : String)
  | listTasks (payload : ListTasksPayload)
  | updateTask (workspace : String) (payload : UpdateTaskPayload)
  | cancelTask (workspace : String) (payload : CloseTaskPayload)
  | removeTask (workspace : String) (payload : CloseTaskPayload)
  | interveneTask (workspace : String) (payload : InterveneTaskPayload)

/-- `handle_envelope`, for a decoded request. -/
def handle (u : Unicode) : Request → Handler
  | .register payload => handleRegister payload
  | .unregister workspace => handleUnregister workspace
  | .setStatus workspace status => handleSetStatus workspace status
  | .recordMcpToolActivity workspace payload => handleRecordMcpToolActivity workspace payload
  | .sendMessage workspace payload => handleSendMessage workspace payload
  | .broadcast workspace payload => handleBroadcast workspace payload
  | .readMessages workspace payload => handleReadMessages u workspace payload
  | .startTask workspace payload => handleStartTask u workspace payload
  | .createTask workspace payload => handleCreateTask u workspace payload
  | .getTask id => handleGetTask u id
  | .listTasks payload => handleListTasks payload
  | .updateTask workspace payload => handleUpdateTask u workspace payload
  | .cancelTask workspace payload => handleCancelTask u workspace payload
  | .removeTask workspace payload => handleRemoveTask u workspace payload
  | .interveneTask workspace payload => handleInterveneTask u workspace payload

end Ax.Daemon
