import Ax.Foundation.Regex
import Ax.Proto.Types

/-!
# Task helpers

The text functions shared by the task store, the message queue and the request
handlers: the `Task ID:` link inside a message body, the suppression of repeated
no-op log lines, the evidence hint for completions and the reminder texts.
-/

namespace Ax.Daemon

def duplicateSuppressionWindow : Int := seconds 15

def operatorWorkspaceName : String := "_cli"

/-! ## Patterns -/

def isHexDigit (c : Char) : Bool :=
  c.isDigit || ('a' ≤ c && c ≤ 'f') || ('A' ≤ c && c ≤ 'F')

/-- `task id:` in any case, followed by white space. -/
def taskIdPrefixPattern : Regex :=
  .seq (.litFold "task id:") (.star (.char Text.isWhitespace))

def uuidPattern : Regex :=
  let hex := Regex.char isHexDigit
  let dash := Regex.lit "-"
  .concat [.times 8 hex, dash, .times 4 hex, dash, .times 4 hex, dash,
    .times 4 hex, dash, .times 12 hex]

def duplicateNoopPattern : Regex :=
  .concat [.wordBoundary,
    .oneOf ([
      "ack", "acked", "acknowledged", "received", "noted", "thank", "thanks", "thank you",
      "roger", "copy that", "working on it", "on it", "looking into it", "in progress",
      "still working", "status", "no update", "no-op", "noop", "same update",
      "same status"].map .litFold),
    .wordBoundary]

def evidencePathPattern (u : Unicode) : Regex :=
  let notWordAscii := Regex.char fun c => !(c.isAlphanum || c = '_')
  let pathChar := Regex.char fun c => u.isWord c || c = '.' || c = '/' || c = '-'
  let extChar := Regex.char Char.isAlphanum
  .concat [.alt .textStart notWordAscii, pathChar, .plus pathChar, .lit ".",
    extChar, .upTo 7 extChar, .wordBoundary]

def evidenceCommandPattern (u : Unicode) : Regex :=
  let word := Regex.plus (.char u.isWord)
  let anyOf := fun (ws : List String) => Regex.oneOf (ws.map .litFold)
  .concat [.wordBoundary,
    .oneOf [
      .seq (.litFold "cargo ") (anyOf ["build", "test", "run", "check", "clippy", "fmt"]),
      .concat [anyOf ["npm", "pnpm", "yarn"], .litFold " ",
        anyOf ["run", "test", "build", "install"]],
      .litFold "pytest",
      .seq (.litFold "python -m ") word,
      .seq (.litFold "go ") (anyOf ["test", "build", "run", "vet"]),
      .seq (.litFold "make ") word,
      .seq (.litFold "gradle ") word,
      .seq (.litFold "mix ") word,
      .seq (.litFold "git ") (anyOf ["commit", "diff", "log", "status", "show"])],
    .wordBoundary]

/-! ## Text functions -/

def extractTaskId (u : Unicode) (content : String) : String :=
  (Regex.capture u taskIdPrefixPattern uuidPattern content).getD ""

def collapseWhitespace (u : Unicode) : Bool → List Char → List Char
  | _, [] => []
  | lastWs, c :: cs =>
    if Text.isWhitespace c then
      if lastWs then collapseWhitespace u true cs
      else ' ' :: collapseWhitespace u true cs
    else u.toLowercase c ++ collapseWhitespace u false cs

def normalizeMessageForSuppression (u : Unicode) (content : String) : String :=
  String.ofList (collapseWhitespace u false (Text.trim content).toList)

def looksLikeNoopStatusMessage (u : Unicode) (normalized : String) : Bool :=
  if normalized = "" then false else duplicateNoopPattern.isMatch u normalized

def hasConcreteEvidence (u : Unicode) (result : String) : Bool :=
  if Text.trim result = "" then false
  else (evidencePathPattern u).isMatch u result || (evidenceCommandPattern u).isMatch u result

def formatTaskDispatchMessage (taskId message : String) : String :=
  s!"Task ID: {taskId}\n\n{Text.trim message}"

inductive TaskDispatchError
  | messageRequired
  | containsTaskId (existing : String)
deriving DecidableEq, Repr

def TaskDispatchError.message (u : Unicode) : TaskDispatchError → String
  | .messageRequired => "message is required"
  | .containsTaskId existing =>
    s!"message must not include Task ID {Text.debugStr u existing}; " ++
      "start_task injects the new task ID automatically"

def normalizeTaskDispatchBody (u : Unicode) (message : String) :
    Except TaskDispatchError String :=
  let trimmed := Text.trim message
  if trimmed = "" then .error .messageRequired
  else
    let existing := extractTaskId u trimmed
    if existing ≠ "" then .error (.containsTaskId existing) else .ok trimmed

def statusLabel : TaskStatus → String
  | .pending => "pending"
  | .inProgress => "in_progress"
  | .blocked => "blocked"
  | .completed => "completed"
  | .failed => "failed"
  | .cancelled => "cancelled"

def buildTaskReminderMessage (task : Task) (note : String) : String :=
  let title := Text.trim task.title
  let description := Text.trim task.description
  let status := statusLabel task.status
  let tail := "The daemon task registry still shows this task as runnable. " ++
    "Call get_task for the latest structured context, then continue or report a blocker."
  let base :=
    if description = "" then
      s!"Task ID: {task.id}\n\nTask: {title}\nCurrent task status: {status}\n{tail}"
    else
      s!"Task ID: {task.id}\n\nTask: {title}\nDescription: {description}\n" ++
        s!"Current task status: {status}\n{tail}"
  if note = "" then base else s!"{base}\n\nOperator note: {note}"

def taskDispatchContent (task : Task) (note : String) : String :=
  if note = "" ∧ Text.trim task.dispatchMessage ≠ "" then task.dispatchMessage
  else buildTaskReminderMessage task note

def taskAwareMessage (u : Unicode) (now : Timestamp) (sender recipient content : String) :
    Message where
  id := ""
  sender := sender
  recipient := recipient
  content := content
  taskId := extractTaskId u content
  createdAt := now

inductive TaskLifecycleError
  | startMode (value : String)
  | workflowMode (value : String)
  | priority (value : String)
deriving DecidableEq, Repr

def TaskLifecycleError.message (u : Unicode) : TaskLifecycleError → String
  | .startMode value => s!"invalid task start mode {Text.debugStr u value}"
  | .workflowMode value => s!"invalid task workflow mode {Text.debugStr u value}"
  | .priority value => s!"invalid task priority {Text.debugStr u value}"

/-- `""` and `"default"` select the default start mode. -/
def parseStartMode (value : String) : Except TaskLifecycleError TaskStartMode :=
  let v := Text.trim value
  if v = "" ∨ v = "default" then .ok .default
  else if v = "fresh" then .ok .fresh
  else .error (.startMode v)

/-- `""` and `"parallel"` select the parallel workflow. -/
def parseWorkflowMode (value : String) : Except TaskLifecycleError TaskWorkflowMode :=
  let v := Text.trim value
  if v = "" ∨ v = "parallel" then .ok .parallel
  else if v = "serial" then .ok .serial
  else .error (.workflowMode v)

/-- `""` and `"normal"` select the normal priority. -/
def parsePriority (value : String) : Except TaskLifecycleError TaskPriority :=
  let v := Text.trim value
  if v = "" ∨ v = "normal" then .ok .normal
  else if v = "low" then .ok .low
  else if v = "high" then .ok .high
  else if v = "urgent" then .ok .urgent
  else .error (.priority v)

def parseTaskLifecycleOptions (startMode workflowMode priority : String) :
    Except TaskLifecycleError (TaskStartMode × TaskWorkflowMode × TaskPriority) := do
  let start ← parseStartMode startMode
  let workflow ← parseWorkflowMode workflowMode
  let prio ← parsePriority priority
  return (start, workflow, prio)

end Ax.Daemon
