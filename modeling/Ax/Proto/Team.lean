import Ax.Proto.Types

/-!
# Types of team reconfiguration

The overlay that records how a team differs from its base configuration, the
changes a client asks for, the plan and ticket it gets back, and the state the
daemon stores for a team.  The 64-bit revision of a team is an integer.
-/

namespace Ax

/-- `EXPERIMENTAL_MCP_TEAM_RECONFIGURE_FLAG_KEY`. -/
def experimentalMcpTeamReconfigureFlagKey : String :=
  "experimental_mcp_team_reconfigure"

/-- What a change is about. -/
inductive TeamEntryKind
  | workspace
  | child
  | rootOrchestrator
deriving DecidableEq, Repr

inductive TeamChangeOp
  | add
  | remove
  | enable
  | disable
deriving DecidableEq, Repr

/-- What the client does after an apply. -/
inductive TeamReconcileMode
  | artifactsOnly
  | startMissing
deriving DecidableEq, Repr

structure TeamWorkspaceSpec where
  dir : String
  description : String
  shell : String
  runtime : String
  agentProvider : String
  codexModelReasoningEffort : String
  agent : String
  instructions : String
  env : BTreeMap String String
deriving DecidableEq

structure TeamChildSpec where
  dir : String
  prefix_ : String
deriving DecidableEq, Repr

structure TeamReconfigureChange where
  op : TeamChangeOp
  kind : TeamEntryKind
  name : String
  workspace : Option TeamWorkspaceSpec
  child : Option TeamChildSpec
deriving DecidableEq

structure TeamOverlay where
  disableRootOrchestrator : Option Bool
  addedWorkspaces : BTreeMap String TeamWorkspaceSpec
  removedWorkspaces : BTreeMap String Bool
  disabledWorkspaces : BTreeMap String Bool
  addedChildren : BTreeMap String TeamChildSpec
  removedChildren : BTreeMap String Bool
  disabledChildren : BTreeMap String Bool
deriving DecidableEq

def TeamOverlay.default : TeamOverlay where
  disableRootOrchestrator := none
  addedWorkspaces := ∅
  removedWorkspaces := ∅
  disabledWorkspaces := ∅
  addedChildren := ∅
  removedChildren := ∅
  disabledChildren := ∅

structure TeamConfiguredState where
  rootOrchestratorEnabled : Bool
  workspaces : List String
  children : List String
  orchestrators : List String
deriving DecidableEq, Repr

structure TeamReconfigureAction where
  action : String
  kind : TeamEntryKind
  name : String
  dir : String
  detail : String
deriving DecidableEq, Repr

structure TeamApplyReport where
  startedAt : Timestamp
  finishedAt : Option Timestamp
  success : Bool
  error : String
  reconcileMode : Option TeamReconcileMode
  actions : List TeamReconfigureAction
deriving DecidableEq, Repr

structure TeamReconfigureState where
  teamId : String
  baseConfigPath : String
  effectiveConfigPath : String
  featureEnabled : Bool
  revision : Int
  overlay : TeamOverlay
  desired : TeamConfiguredState
  lastApply : Option TeamApplyReport
deriving DecidableEq

structure TeamReconfigurePlan where
  state : TeamReconfigureState
  expectedRevision : Int
  changes : List TeamReconfigureChange
  actions : List TeamReconfigureAction
  warnings : List String
deriving DecidableEq

/-- What a successful `begin_apply` returns. -/
structure TeamApplyTicket where
  token : String
  plan : TeamReconfigurePlan
  reconcileMode : TeamReconcileMode
deriving DecidableEq

end Ax
