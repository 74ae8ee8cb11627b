import Ax.Foundation.Json
import Ax.Proto.Types

/-!
# Envelopes on the socket

What clients and the daemon exchange: one JSON document on each line, with an id, a type and
a payload that is not looked into.  A response or an error has the id of the request, a push
has none.

Main results:

- Theorem `MessageType.parse_rename`: the texts of the types are read back.
- Definition `envelopeCodec`: the codec of envelopes.
-/

namespace Ax

inductive MessageType
  | register
  | unregister
  | sendMessage
  | broadcast
  | readMessages
  | listWorkspaces
  | setStatus
  | updateAgentStatusMetrics
  | getAgentStatusMetrics
  | listAgentStatusMetrics
  | recordMcpToolActivity
  | controlLifecycle
  | agentLifecycle
  | setShared
  | getShared
  | listShared
  | rememberMemory
  | recallMemories
  | usageTrends
  | createTask
  | startTask
  | updateTask
  | getTask
  | listTasks
  | cancelTask
  | removeTask
  | interveneTask
  | getTeamState
  | dryRunTeam
  | applyTeam
  | finishTeam
  | pushMessage
  | response
  | error
deriving DecidableEq, Repr

namespace MessageType

def rename : MessageType → String
  | .register => "register"
  | .unregister => "unregister"
  | .sendMessage => "send_message"
  | .broadcast => "broadcast"
  | .readMessages => "read_messages"
  | .listWorkspaces => "list_workspaces"
  | .setStatus => "set_status"
  | .updateAgentStatusMetrics => "update_agent_status_metrics"
  | .getAgentStatusMetrics => "get_agent_status_metrics"
  | .listAgentStatusMetrics => "list_agent_status_metrics"
  | .recordMcpToolActivity => "record_mcp_tool_activity"
  | .controlLifecycle => "control_lifecycle"
  | .agentLifecycle => "agent_lifecycle"
  | .setShared => "set_shared"
  | .getShared => "get_shared"
  | .listShared => "list_shared"
  | .rememberMemory => "remember_memory"
  | .recallMemories => "recall_memories"
  | .usageTrends => "usage_trends"
  | .createTask => "create_task"
  | .startTask => "start_task"
  | .updateTask => "update_task"
  | .getTask => "get_task"
  | .listTasks => "list_tasks"
  | .cancelTask => "cancel_task"
  | .removeTask => "remove_task"
  | .interveneTask => "intervene_task"
  | .getTeamState => "get_team_state"
  | .dryRunTeam => "dry_run_team_reconfigure"
  | .applyTeam => "apply_team_reconfigure"
  | .finishTeam => "finish_team_reconfigure"
  | .pushMessage => "push_message"
  | .response => "response"
  | .error => "error"

def all : List MessageType :=
  [.register, .unregister, .sendMessage, .broadcast, .readMessages, .listWorkspaces, .setStatus,
   .updateAgentStatusMetrics, .getAgentStatusMetrics, .listAgentStatusMetrics,
   .recordMcpToolActivity, .controlLifecycle, .agentLifecycle, .setShared, .getShared,
   .listShared, .rememberMemory, .recallMemories, .usageTrends, .createTask, .startTask,
   .updateTask, .getTask, .listTasks, .cancelTask, .removeTask, .interveneTask, .getTeamState,
   .dryRunTeam, .applyTeam, .finishTeam, .pushMessage, .response, .error]

def parse (text : String) : Option MessageType :=
  all.find? fun type => type.rename = text

/-- The texts of the types are read back. -/
theorem parse_rename (type : MessageType) : parse type.rename = some type := by
  cases type <;> decide +kernel

end MessageType

namespace Wire

structure Envelope where
  id : String
  type : MessageType
  payload : Json

/-- Envelopes as documents; the payload may be any value. -/
def envelopeCodec : Codec Envelope :=
  (Record.start Envelope.mk
    |>.field (.required "id" .string) Envelope.id
    |>.field (.required "type" (.text MessageType.rename MessageType.parse
      MessageType.parse_rename)) Envelope.type
    |>.field (.raw "payload") Envelope.payload).codec (fun _ => rfl) (by simp)

/-- `response`: the envelope of an answer. -/
def response (id : String) (data : Json) : Envelope where
  id := id
  type := .response
  payload := .obj [("success", .bool true), ("data", data)]

/-- `error_envelope`. -/
def errorEnvelope (id message : String) : Envelope where
  id := id
  type := .error
  payload := .obj [("message", .str message)]

def pushEnvelope (message : Json) : Envelope where
  id := ""
  type := .pushMessage
  payload := message

def Envelope.isPush (env : Envelope) : Bool :=
  env.type = .pushMessage

/-- Reading an envelope from a text, when `parse` reads documents. -/
def Envelope.fromStr (parse : String → Except String Json) (text : String) :
    Except String Envelope :=
  parse text >>= envelopeCodec.decode

end Wire
end Ax
