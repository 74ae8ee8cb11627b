import Ax.Foundation.BTreeMap

/-!
# Wire and storage types

The domain types that the daemon's stores hold and its handlers exchange: messages, tasks and
memories, with the fields of their source types.  Timestamps are nanoseconds since the Unix epoch.
The 64-bit counters of a task are integers; none of the modelled counters can reach the 64-bit bound
by single increments.
-/

namespace Ax

/-- A `DateTime<Utc>`: nanoseconds since the Unix epoch. -/
abbrev Timestamp := Int

/-- `DateTime::timestamp`: whole seconds since the epoch, rounded down. -/
def Timestamp.timestamp (t : Timestamp) : Int :=
  Int.ediv t 1000000000

def seconds (n : Int) : Int :=
  n * 1000000000

/-- A message in a workspace inbox.  `sender` and `recipient` are the source's
fields `from` and `to`. -/
structure Message where
  id : String
  sender : String
  recipient : String
  content : String
  taskId : String
  createdAt : Timestamp
deriving DecidableEq, Repr

inductive TaskStatus
  | pending
  | inProgress
  | blocked
  | completed
  | failed
  | cancelled
deriving DecidableEq, Repr

inductive TaskStartMode
  | default
  | fresh
deriving DecidableEq, Repr

inductive TaskWorkflowMode
  | parallel
  | serial
deriving DecidableEq, Repr

inductive TaskPriority
  | low
  | normal
  | high
  | urgent
deriving DecidableEq, Repr

inductive TaskSequenceState
  | waitingTurn
  | ready
  | released
  | notApplicable
deriving DecidableEq, Repr

structure TaskSequenceInfo where
  mode : Option TaskWorkflowMode
  state : Option TaskSequenceState
  position : Int
  waitingOnTaskId : String
deriving DecidableEq, Repr

structure TaskStaleInfo where
  isStale : Bool
  reason : String
  recommendedAction : String
  lastProgressAt : Timestamp
  ageSeconds : Int
  pendingMessages : Int
  lastMessageAt : Option Timestamp
  wakePending : Bool
  wakeAttempts : Int
  nextWakeRetryAt : Option Timestamp
  claimState : String
  claimStateNote : String
  runnable : Bool
  runnableReason : String
  recoveryEligible : Bool
  stateDivergence : Bool
  stateDivergenceNote : String
deriving DecidableEq, Repr

structure TaskLog where
  timestamp : Timestamp
  workspace : String
  message : String
deriving DecidableEq, Repr

structure TaskRollup where
  totalChildren : Int
  pendingChildren : Int
  inProgressChildren : Int
  blockedChildren : Int
  completedChildren : Int
  failedChildren : Int
  cancelledChildren : Int
  terminalChildren : Int
  activeChildren : Int
  lastChildUpdateAt : Option Timestamp
  allChildrenTerminal : Bool
  needsParentReconciliation : Bool
  summary : String
deriving DecidableEq, Repr

structure Task where
  id : String
  title : String
  description : String
  assignee : String
  createdBy : String
  parentTaskId : String
  childTaskIds : List String
  version : Int
  status : TaskStatus
  startMode : TaskStartMode
  workflowMode : Option TaskWorkflowMode
  priority : Option TaskPriority
  staleAfterSeconds : Int
  dispatchMessage : String
  dispatchConfigPath : String
  dispatchCount : Int
  attemptCount : Int
  lastDispatchAt : Option Timestamp
  lastAttemptAt : Option Timestamp
  nextRetryAt : Option Timestamp
  claimedAt : Option Timestamp
  claimedBy : String
  claimSource : String
  result : String
  logs : List TaskLog
  rollup : Option TaskRollup
  sequence : Option TaskSequenceInfo
  staleInfo : Option TaskStaleInfo
  removedAt : Option Timestamp
  removedBy : String
  removeReason : String
  createdAt : Timestamp
  updatedAt : Timestamp
deriving DecidableEq, Repr

structure Memory where
  id : String
  scope : String
  kind : String
  subject : String
  content : String
  tags : List String
  createdBy : String
  supersedes : List String
  supersededBy : String
  supersededAt : Option Timestamp
  createdAt : Timestamp
  updatedAt : Timestamp
deriving DecidableEq, Repr

end Ax
