import Ax.Proto.Types

/-!
# Payloads and responses

The decoded payloads of the requests about messages and tasks, and what the
daemon answers.
-/

namespace Ax

structure RegisterPayload where
  workspace : String
  dir : String
  description : String
  configPath : String
  idleTimeoutSeconds : Int
deriving DecidableEq, Repr

structure SendMessagePayload where
  to_ : String
  message : String
  configPath : String
deriving DecidableEq, Repr

structure BroadcastPayload where
  message : String
  configPath : String
deriving DecidableEq, Repr

structure ReadMessagesPayload where
  limit : Int
  from_ : String
deriving DecidableEq, Repr

/-- `RecordMcpToolActivityPayload`, without what is only written to the history. -/
structure RecordMcpToolActivityPayload where
  tool : String
  taskId : String
  durationMs : Int
deriving DecidableEq, Repr

structure CreateTaskPayload where
  title : String
  description : String
  assignee : String
  parentTaskId : String
  startMode : String
  workflowMode : String
  priority : String
  staleAfterSeconds : Int
deriving DecidableEq, Repr

/-- `StartTaskPayload`: a task with the message that starts it. -/
structure StartTaskPayload extends CreateTaskPayload where
  message : String
deriving DecidableEq, Repr

structure UpdateTaskPayload where
  id : String
  status : Option TaskStatus
  result : Option String
  log : Option String
  confirm : Option Bool
deriving DecidableEq, Repr

/-- `CancelTaskPayload` and `RemoveTaskPayload`. -/
structure CloseTaskPayload where
  id : String
  reason : String
  expectedVersion : Option Int
deriving DecidableEq, Repr

structure InterveneTaskPayload where
  id : String
  action : String
  note : String
  expectedVersion : Option Int
deriving DecidableEq, Repr

structure ListTasksPayload where
  assignee : String
  createdBy : String
  status : Option TaskStatus
deriving DecidableEq, Repr

structure TaskDispatch where
  messageId : String
  status : String
deriving DecidableEq, Repr

structure InterveneTaskResponse where
  task : Task
  action : String
  status : String
  messageId : String

inductive Response
  | status (status : String)
  | sendMessage (messageId status : String)
  | broadcast (recipients : List String) (count : Nat)
  | readMessages (messages : List Message)
  | startTask (task : Task) (dispatch : TaskDispatch)
  | interveneTask (response : InterveneTaskResponse)
  | task (task : Task)
  | listTasks (tasks : List Task)

end Ax
