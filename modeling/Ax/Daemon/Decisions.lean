import Ax.Daemon.TaskStore.Operations

/-!
# Decisions of the task handlers

The policy of the request handlers, apart from its effects: each function reads
already decoded data and names the action that the handler carries out.
-/

namespace Ax.Daemon

/-- What `intervene_task` is to do. -/
inductive InterventionPlan
  | wake
  | interrupt
  | retry
  | invalid (action : String)
deriving DecidableEq, Repr

/-- `plan_intervention`. -/
def planIntervention (action : String) : InterventionPlan :=
  let known := Text.toAsciiLowercase (Text.trim action)
  if known = "wake" then .wake
  else if known = "interrupt" then .interrupt
  else if known = "retry" then .retry
  else .invalid action

inductive WakePlan
  | ensureRunnable (configPath assignee : String)
  | directWake (assignee : String)
  | sessionMissing (assignee : String)
deriving DecidableEq, Repr

/-- `plan_task_wake`, after the probe for the assignee's session. -/
def planTaskWake (task : Task) (sessionExists : Bool) : WakePlan :=
  let configPath := Text.trim task.dispatchConfigPath
  if configPath ≠ "" then .ensureRunnable configPath task.assignee
  else if sessionExists then .directWake task.assignee
  else .sessionMissing task.assignee

/-- What becomes of a `send_message`. -/
inductive SendMessagePlan
  | reject (reason : String)
  | enqueue
  | enqueueAndEnsureRunnable (configPath : String)
deriving DecidableEq, Repr

/-- `plan_send_message`. -/
def planSendMessage (sender to_ configPath : String) : SendMessagePlan :=
  if Text.trim to_ = "" then .reject "missing recipient"
  else if to_ = sender then .reject "cannot send message to self"
  else
    let configPath := Text.trim configPath
    if configPath = "" then .enqueue else .enqueueAndEnsureRunnable configPath

inductive TaskStartDispatchPlan
  | waitingForInput
  | queue (assignee : String) (configPath : Option String)
  | skip (reason : String)
deriving DecidableEq, Repr

/-- `plan_task_start_dispatch`. -/
def planTaskStartDispatch (task : Task) : TaskStartDispatchPlan :=
  match task.status with
  | .pending | .inProgress =>
    if Text.trim task.dispatchMessage = "" then .waitingForInput
    else
      let configPath := Text.trim task.dispatchConfigPath
      .queue task.assignee (if configPath = "" then none else some configPath)
  | other => .skip s!"task already in terminal state {TaskStore.statusDebug other}"

inductive TaskStateFollowupPlan
  | none
  | cleanupTerminal (assignee taskId : String)
deriving DecidableEq, Repr

/-- `plan_task_state_followup`: a blocked task is cleaned up like a closed one. -/
def planTaskStateFollowup (task : Task) : TaskStateFollowupPlan :=
  match task.status with
  | .completed | .failed | .cancelled | .blocked => .cleanupTerminal task.assignee task.id
  | .pending | .inProgress => .none

/-- `should_dispatch_operator_created_task`. -/
def shouldDispatchOperatorCreatedTask (task : Task) : Bool :=
  task.createdBy = operatorWorkspaceName ∧ Text.trim task.assignee ≠ "" ∧
    task.assignee ≠ operatorWorkspaceName

def takeBytes : Nat → List Char → List Char
  | _, [] => []
  | limit, c :: cs => if c.utf8Size ≤ limit then c :: takeBytes (limit - c.utf8Size) cs else []

/-- `MAX_SNIPPET`. -/
def maxSnippet : Nat :=
  240

def resultSnippet (result : String) : String :=
  let trimmed := Text.trim result
  if trimmed = "" then ""
  else if maxSnippet < trimmed.utf8ByteSize then
    " — " ++ String.ofList (takeBytes maxSnippet trimmed.toList) ++ "…"
  else " — " ++ trimmed

def terminalNotice (task : Task) : String :=
  s!"[task-{statusLabel task.status}] Task ID: {task.id} — assignee={task.assignee}" ++
    resultSnippet task.result

def terminalNoticeRecipient (task : Task) : Option String :=
  let creator := Text.trim task.createdBy
  if creator = "" ∨ creator = task.assignee then .none
  else
    match task.status with
    | .completed | .failed | .cancelled | .blocked => some creator
    | .pending | .inProgress => .none

def isCompletionRefusal : TaskStoreError → Bool
  | .missingCompletionEvidence _ | .completionRequiresConfirmation _ => true
  | _ => false

/-- The text of that reminder. -/
def completionRefusalNotice (u : Unicode) (taskId : String) (e : TaskStoreError) : String :=
  s!"[task-completion-rejected] Task ID: {taskId} — " ++
    s!"your last update_task was refused. {e.message u}"

end Ax.Daemon
