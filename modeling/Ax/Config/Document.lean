import Ax.Foundation.Json
import Ax.Config.ManagedOverlay

/-!
# Configuration files as documents

The fields of a configuration file and of a managed overlay, in the order of the
records, with those that are left out when they have their default value.  A saved
configuration is read back as it was.

Main results:

- Definitions `configCodec` and `overlayCodec`: the codecs of the two kinds of files.
-/

namespace Ax.Config

/-! ## Skip rules -/

def isFalse (v : Bool) : Bool :=
  !v

def isZeroI32 (v : Int32) : Bool :=
  v == 0

def isDefaultOrchestratorDepth (v : U32) : Bool :=
  v == Config.default.maxOrchestratorDepth

def isDefaultChildrenPerNode (v : U32) : Bool :=
  v == Config.default.maxChildrenPerNode

def isDefaultConcurrentAgents (v : U32) : Bool :=
  v == Config.default.maxConcurrentAgents

def managedPolicyIsEmpty (p : ManagedPolicyOverlay) : Bool :=
  p.orchestratorRuntime.isNone && p.defaultAgentProvider.isNone &&
    p.disableRootOrchestrator.isNone

lemma eq_false_of_isFalse (v : Bool) : isFalse v = true → v = false := by
  cases v <;> decide

/-- The policies that are left out are the default ones. -/
lemma eq_default_of_managedPolicyIsEmpty (p : ManagedPolicyOverlay)
    (h : managedPolicyIsEmpty p = true) : p = .default := by
  simp only [managedPolicyIsEmpty, Bool.and_eq_true, Option.isNone_iff_eq_none] at h
  obtain ⟨⟨hruntime, hprovider⟩, hroot⟩ := h
  cases p
  simp_all [ManagedPolicyOverlay.default]

/-! ## Codecs -/

def agentProviderCodec : Codec AgentProvider :=
  (Record.start AgentProvider.mk
    |>.field (.skipped "runtime" .string "") AgentProvider.runtime
    |>.field (.skipped "model" .string "") AgentProvider.model
    |>.field (.skipped "base_url" .string "") AgentProvider.baseUrl
    |>.field (.skipped "env_key" .string "") AgentProvider.envKey
    |>.field (.skipped "wire_api" .string "") AgentProvider.wireApi
    |>.field (.skipped "web_search" .string "") AgentProvider.webSearch).codec
      (fun _ => rfl) (by simp)

def childCodec : Codec Child :=
  (Record.start Child.mk
    |>.field (.required "dir" .string) Child.dir
    |>.field (.skipped "prefix" .string "") Child.prefix_).codec (fun _ => rfl) (by simp)

def workspaceCodec : Codec Workspace :=
  (Record.start Workspace.mk
    |>.field (.required "dir" .string) Workspace.dir
    |>.field (.skipped "description" .string "") Workspace.description
    |>.field (.skipped "shell" .string "") Workspace.shell
    |>.field (.skipped "runtime" .string "") Workspace.runtime
    |>.field (.skipped "agent_provider" .string "") Workspace.agentProvider
    |>.field (.skipped "codex_model_reasoning_effort" .string "")
      Workspace.codexModelReasoningEffort
    |>.field (.skipped "agent" .string "") Workspace.agent
    |>.field (.skipped "instructions" .string "") Workspace.instructions
    |>.field (.skipped "env" (.mapping .string) ∅) Workspace.env).codec (fun _ => rfl) (by simp)

/-- Configuration files. -/
def configCodec : Codec Config :=
  (Record.start Config.mk
    |>.field (.defaulted "project" .string "") Config.project
    |>.field (.skipped "orchestrator_runtime" .string "") Config.orchestratorRuntime
    |>.field (.skipped "default_agent_provider" .string "") Config.defaultAgentProvider
    |>.field (.skippedIf "disable_root_orchestrator" .bool isFalse false eq_false_of_isFalse)
      Config.disableRootOrchestrator
    |>.field (.skippedIf "experimental_mcp_team_reconfigure" .bool isFalse false
      eq_false_of_isFalse) Config.experimentalMcpTeamReconfigure
    |>.field (.skipped "codex_model_reasoning_effort" .string "")
      Config.codexModelReasoningEffort
    |>.field (.skippedIf "idle_timeout_minutes" .int32 isZeroI32 0 fun _ => eq_of_beq)
      Config.idleTimeoutMinutes
    |>.field (.skippedIf "max_orchestrator_depth" (.fin _) isDefaultOrchestratorDepth
      Config.default.maxOrchestratorDepth fun _ => eq_of_beq) Config.maxOrchestratorDepth
    |>.field (.skippedIf "max_children_per_node" (.fin _) isDefaultChildrenPerNode
      Config.default.maxChildrenPerNode fun _ => eq_of_beq) Config.maxChildrenPerNode
    |>.field (.skippedIf "max_concurrent_agents" (.fin _) isDefaultConcurrentAgents
      Config.default.maxConcurrentAgents fun _ => eq_of_beq) Config.maxConcurrentAgents
    |>.field (.skipped "agent_providers" (.mapping agentProviderCodec) ∅) Config.agentProviders
    |>.field (.skipped "children" (.mapping childCodec) ∅) Config.children
    |>.field (.skipped "workspaces" (.mapping workspaceCodec) ∅) Config.workspaces).codec
      (fun _ => rfl) (by decide)

def policyCodec : Codec ManagedPolicyOverlay :=
  (Record.start ManagedPolicyOverlay.mk
    |>.field (.optional "orchestrator_runtime" .string) ManagedPolicyOverlay.orchestratorRuntime
    |>.field (.optional "default_agent_provider" .string)
      ManagedPolicyOverlay.defaultAgentProvider
    |>.field (.optional "disable_root_orchestrator" .bool)
      ManagedPolicyOverlay.disableRootOrchestrator).codec (fun _ => rfl) (by simp)

def workspacePatchCodec : Codec ManagedWorkspacePatch :=
  (Record.start ManagedWorkspacePatch.mk
    |>.field (.skippedIf "delete" .bool isFalse false eq_false_of_isFalse)
      ManagedWorkspacePatch.delete
    |>.field (.optional "enabled" .bool) ManagedWorkspacePatch.enabled
    |>.field (.optional "dir" .string) ManagedWorkspacePatch.dir
    |>.field (.optional "description" .string) ManagedWorkspacePatch.description
    |>.field (.optional "runtime" .string) ManagedWorkspacePatch.runtime
    |>.field (.optional "agent_provider" .string) ManagedWorkspacePatch.agentProvider
    |>.field (.optional "shell" .string) ManagedWorkspacePatch.shell
    |>.field (.optional "agent" .string) ManagedWorkspacePatch.agent).codec
      (fun _ => rfl) (by simp)

def childPatchCodec : Codec ManagedChildPatch :=
  (Record.start ManagedChildPatch.mk
    |>.field (.skippedIf "delete" .bool isFalse false eq_false_of_isFalse)
      ManagedChildPatch.delete
    |>.field (.optional "enabled" .bool) ManagedChildPatch.enabled
    |>.field (.optional "dir" .string) ManagedChildPatch.dir
    |>.field (.optional "prefix" .string) ManagedChildPatch.prefix_).codec
      (fun _ => rfl) (by simp)

/-- Managed overlays. -/
def overlayCodec : Codec ManagedOverlay :=
  (Record.start ManagedOverlay.mk
    |>.field (.skippedIf "policies" policyCodec managedPolicyIsEmpty .default
      eq_default_of_managedPolicyIsEmpty) ManagedOverlay.policies
    |>.field (.skipped "workspaces" (.mapping workspacePatchCodec) ∅) ManagedOverlay.workspaces
    |>.field (.skipped "children" (.mapping childPatchCodec) ∅) ManagedOverlay.children).codec
      (fun _ => rfl) (by simp)

end Ax.Config
