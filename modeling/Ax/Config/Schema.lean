import Ax.Foundation.BTreeMap
import Ax.Foundation.Path

/-!
# Configuration files

The schema of a project's configuration file, the tree of projects that loading
it with its children gives, and the operations on configuration files that the
daemon uses.  Parsing, validation and the recursive load are operations of the
file system view here: the team controller is modelled for every outcome they
can have.
-/

namespace Ax

abbrev U32 := Fin 4294967296

namespace Config

structure AgentProvider where
  runtime : String
  model : String
  baseUrl : String
  envKey : String
  wireApi : String
  webSearch : String
deriving DecidableEq, Repr

structure Child where
  dir : String
  prefix_ : String
deriving DecidableEq, Repr

structure Workspace where
  dir : String
  description : String
  shell : String
  runtime : String
  agentProvider : String
  codexModelReasoningEffort : String
  agent : String
  instructions : String
  env : BTreeMap String String
deriving DecidableEq

end Config

structure Config where
  project : String
  orchestratorRuntime : String
  defaultAgentProvider : String
  disableRootOrchestrator : Bool
  experimentalMcpTeamReconfigure : Bool
  codexModelReasoningEffort : String
  idleTimeoutMinutes : Int32
  maxOrchestratorDepth : U32
  maxChildrenPerNode : U32
  maxConcurrentAgents : U32
  agentProviders : BTreeMap String Config.AgentProvider
  children : BTreeMap String Config.Child
  workspaces : BTreeMap String Config.Workspace
deriving DecidableEq

namespace Config

/-- `Config::default`. -/
def default : Config where
  project := ""
  orchestratorRuntime := ""
  defaultAgentProvider := ""
  disableRootOrchestrator := false
  experimentalMcpTeamReconfigure := false
  codexModelReasoningEffort := ""
  idleTimeoutMinutes := 0
  maxOrchestratorDepth := 3
  maxChildrenPerNode := 6
  maxConcurrentAgents := 8
  agentProviders := ∅
  children := ∅
  workspaces := ∅

structure WorkspaceRef where
  name : String
  mergedName : String
  runtime : String
  description : String
  instructions : String
deriving DecidableEq, Repr

structure ProjectNode where
  name : String
  alias_ : String
  prefix_ : String
  dir : String
  orchestratorRuntime : String
  disableRootOrchestrator : Bool
  workspaces : List WorkspaceRef
  children : List ProjectNode

/-- `DEFAULT_CONFIG_DIR`. -/
def defaultConfigDir : String :=
  ".ax"

/-- `ConfigRoot::from_config_path`: the project directory of a configuration
file, which lies in it directly or in its `.ax` directory. -/
def rootFromConfigPath (path : String) : String :=
  let parent := (Path.parent path).getD "."
  if (Path.fileName parent).getD "" = defaultConfigDir then
    (Path.parent parent).getD "."
  else parent

structure Files where
  readLocal : String → Except String Config
  load : String → Except String Config
  loadTree : String → Except String ProjectNode
  save : String → Config → Except String Unit
  createDirAll : String → Except String Unit

end Config
end Ax
