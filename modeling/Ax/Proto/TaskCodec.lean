import Ax.Foundation.Json
import Ax.Proto.Types

/-!
# Task records as JSON

The stored form of a task, field by field in the order of the record, with the
fields that are left out when they are empty and the old spellings that are
still read.  Timestamps are texts; how they are written is a parameter.

Main results:

- Definition `TaskCodec.task`: the codec of task records, with the proof that every
  task is read back as it was written.
-/

namespace Ax

def TaskStatus.rename : TaskStatus → String
  | .pending => "pending"
  | .inProgress => "in_progress"
  | .blocked => "blocked"
  | .completed => "completed"
  | .failed => "failed"
  | .cancelled => "cancelled"

def TaskStatus.parse : String → Option TaskStatus
  | "pending" => some .pending
  | "in_progress" => some .inProgress
  | "blocked" => some .blocked
  | "completed" => some .completed
  | "failed" => some .failed
  | "cancelled" => some .cancelled
  | _ => none

def TaskStartMode.rename : TaskStartMode → String
  | .default => "default"
  | .fresh => "fresh"

def TaskStartMode.parse : String → Option TaskStartMode
  | "default" | "" => some .default
  | "fresh" => some .fresh
  | _ => none

def TaskWorkflowMode.rename : TaskWorkflowMode → String
  | .parallel => "parallel"
  | .serial => "serial"

def TaskWorkflowMode.parse : String → Option TaskWorkflowMode
  | "parallel" | "" => some .parallel
  | "serial" => some .serial
  | _ => none

def TaskPriority.rename : TaskPriority → String
  | .low => "low"
  | .normal => "normal"
  | .high => "high"
  | .urgent => "urgent"

def TaskPriority.parse : String → Option TaskPriority
  | "low" => some .low
  | "normal" | "" => some .normal
  | "high" => some .high
  | "urgent" => some .urgent
  | _ => none

def TaskSequenceState.rename : TaskSequenceState → String
  | .waitingTurn => "waiting_turn"
  | .ready => "ready"
  | .released => "released"
  | .notApplicable => "not_applicable"

def TaskSequenceState.parse : String → Option TaskSequenceState
  | "waiting_turn" => some .waitingTurn
  | "ready" => some .ready
  | "released" => some .released
  | "not_applicable" => some .notApplicable
  | _ => none

namespace TaskCodec

def status : Codec TaskStatus :=
  .text TaskStatus.rename TaskStatus.parse fun a => by cases a <;> rfl

def startMode : Codec TaskStartMode :=
  .text TaskStartMode.rename TaskStartMode.parse fun a => by cases a <;> rfl

def workflowMode : Codec TaskWorkflowMode :=
  .text TaskWorkflowMode.rename TaskWorkflowMode.parse fun a => by cases a <;> rfl

def priority : Codec TaskPriority :=
  .text TaskPriority.rename TaskPriority.parse fun a => by cases a <;> rfl

def sequenceState : Codec TaskSequenceState :=
  .text TaskSequenceState.rename TaskSequenceState.parse fun a => by cases a <;> rfl

section Records

variable (time : Codec Timestamp)

def log : Codec TaskLog :=
  (Record.start TaskLog.mk
    |>.field (.required "timestamp" time) TaskLog.timestamp
    |>.field (.required "workspace" .string) TaskLog.workspace
    |>.field (.required "message" .string) TaskLog.message).codec (fun _ => rfl) (by simp)

def rollup : Codec TaskRollup :=
  (Record.start TaskRollup.mk
    |>.field (.required "total_children" .int) TaskRollup.totalChildren
    |>.field (.skipped "pending_children" .int 0) TaskRollup.pendingChildren
    |>.field (.skipped "in_progress_children" .int 0) TaskRollup.inProgressChildren
    |>.field (.skipped "blocked_children" .int 0) TaskRollup.blockedChildren
    |>.field (.skipped "completed_children" .int 0) TaskRollup.completedChildren
    |>.field (.skipped "failed_children" .int 0) TaskRollup.failedChildren
    |>.field (.skipped "cancelled_children" .int 0) TaskRollup.cancelledChildren
    |>.field (.skipped "terminal_children" .int 0) TaskRollup.terminalChildren
    |>.field (.skipped "active_children" .int 0) TaskRollup.activeChildren
    |>.field (.optional "last_child_update_at" time) TaskRollup.lastChildUpdateAt
    |>.field (.skipped "all_children_terminal" .bool false) TaskRollup.allChildrenTerminal
    |>.field (.skipped "needs_parent_reconciliation" .bool false)
      TaskRollup.needsParentReconciliation
    |>.field (.skipped "summary" .string "") TaskRollup.summary).codec (fun _ => rfl) (by simp)

def sequenceInfo : Codec TaskSequenceInfo :=
  (Record.start TaskSequenceInfo.mk
    |>.field (.optional "mode" workflowMode) TaskSequenceInfo.mode
    |>.field (.optional "state" sequenceState) TaskSequenceInfo.state
    |>.field (.skipped "position" .int 0) TaskSequenceInfo.position
    |>.field (.skipped "waiting_on_task_id" .string "")
      TaskSequenceInfo.waitingOnTaskId).codec (fun _ => rfl) (by simp)

/-- Staleness reports. -/
def staleInfo : Codec TaskStaleInfo :=
  (Record.start TaskStaleInfo.mk
    |>.field (.required "is_stale" .bool) TaskStaleInfo.isStale
    |>.field (.skipped "reason" .string "") TaskStaleInfo.reason
    |>.field (.skipped "recommended_action" .string "") TaskStaleInfo.recommendedAction
    |>.field (.required "last_progress_at" time) TaskStaleInfo.lastProgressAt
    |>.field (.required "age_seconds" .int) TaskStaleInfo.ageSeconds
    |>.field (.required "pending_messages" .int) TaskStaleInfo.pendingMessages
    |>.field (.optional "last_message_at" time) TaskStaleInfo.lastMessageAt
    |>.field (.skipped "wake_pending" .bool false) TaskStaleInfo.wakePending
    |>.field (.skipped "wake_attempts" .int 0) TaskStaleInfo.wakeAttempts
    |>.field (.optional "next_wake_retry_at" time) TaskStaleInfo.nextWakeRetryAt
    |>.field (.skipped "claim_state" .string "") TaskStaleInfo.claimState
    |>.field (.skipped "claim_state_note" .string "") TaskStaleInfo.claimStateNote
    |>.field (.skipped "runnable" .bool false) TaskStaleInfo.runnable
    |>.field (.skipped "runnable_reason" .string "") TaskStaleInfo.runnableReason
    |>.field (.skipped "recovery_eligible" .bool false) TaskStaleInfo.recoveryEligible
    |>.field (.skipped "state_divergence" .bool false) TaskStaleInfo.stateDivergence
    |>.field (.skipped "state_divergence_note" .string "")
      TaskStaleInfo.stateDivergenceNote).codec (fun _ => rfl) (by simp)

def taskRecord : Record Task Task :=
  Record.start Task.mk
    |>.field (.required "id" .string) Task.id
    |>.field (.required "title" .string) Task.title
    |>.field (.skipped "description" .string "") Task.description
    |>.field (.required "assignee" .string) Task.assignee
    |>.field (.required "created_by" .string) Task.createdBy
    |>.field (.skipped "parent_task_id" .string "") Task.parentTaskId
    |>.field (.skipped "child_task_ids" (.list .string) []) Task.childTaskIds
    |>.field (.required "version" .int) Task.version
    |>.field (.required "status" status) Task.status
    |>.field (.required "start_mode" startMode) Task.startMode
    |>.field (.optional "workflow_mode" workflowMode) Task.workflowMode
    |>.field (.optional "priority" priority) Task.priority
    |>.field (.skipped "stale_after_seconds" .int 0) Task.staleAfterSeconds
    |>.field (.skipped "dispatch_message" .string "") Task.dispatchMessage
    |>.field (.skipped "dispatch_config_path" .string "") Task.dispatchConfigPath
    |>.field (.skipped "dispatch_count" .int 0) Task.dispatchCount
    |>.field (.skipped "attempt_count" .int 0) Task.attemptCount
    |>.field (.optional "last_dispatch_at" time) Task.lastDispatchAt
    |>.field (.optional "last_attempt_at" time) Task.lastAttemptAt
    |>.field (.optional "next_retry_at" time) Task.nextRetryAt
    |>.field (.optional "claimed_at" time) Task.claimedAt
    |>.field (.skipped "claimed_by" .string "") Task.claimedBy
    |>.field (.skipped "claim_source" .string "") Task.claimSource
    |>.field (.skipped "result" .string "") Task.result
    |>.field (.skipped "logs" (.list (log time)) []) Task.logs
    |>.field (.optional "rollup" (rollup time)) Task.rollup
    |>.field (.optional "sequence" sequenceInfo) Task.sequence
    |>.field (.optional "stale_info" (staleInfo time)) Task.staleInfo
    |>.field (.optional "removed_at" time) Task.removedAt
    |>.field (.skipped "removed_by" .string "") Task.removedBy
    |>.field (.skipped "remove_reason" .string "") Task.removeReason
    |>.field (.required "created_at" time) Task.createdAt
    |>.field (.required "updated_at" time) Task.updatedAt

def task : Codec Task :=
  (taskRecord time).codec (fun _ => rfl) (by simp [taskRecord])

end Records

end TaskCodec

end Ax
