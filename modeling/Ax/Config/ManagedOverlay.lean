import Ax.Config.Schema

/-!
# The managed overlay of a configuration file

A project with the experimental reconfiguration feature has a second, machine
written file beside its configuration: patches of policies, workspaces and
children that are merged into the configuration when it is loaded.
-/

namespace Ax.Config

structure ManagedPolicyOverlay where
  orchestratorRuntime : Option String
  defaultAgentProvider : Option String
  disableRootOrchestrator : Option Bool
deriving DecidableEq, Repr

structure ManagedWorkspacePatch where
  delete : Bool
  enabled : Option Bool
  dir : Option String
  description : Option String
  runtime : Option String
  agentProvider : Option String
  shell : Option String
  agent : Option String
deriving DecidableEq, Repr

structure ManagedChildPatch where
  delete : Bool
  enabled : Option Bool
  dir : Option String
  prefix_ : Option String
deriving DecidableEq, Repr

structure ManagedOverlay where
  policies : ManagedPolicyOverlay
  workspaces : BTreeMap String ManagedWorkspacePatch
  children : BTreeMap String ManagedChildPatch
deriving DecidableEq

def ManagedPolicyOverlay.default : ManagedPolicyOverlay where
  orchestratorRuntime := none
  defaultAgentProvider := none
  disableRootOrchestrator := none

def ManagedOverlay.default : ManagedOverlay where
  policies := .default
  workspaces := ∅
  children := ∅

def Workspace.default : Workspace where
  dir := ""
  description := ""
  shell := ""
  runtime := ""
  agentProvider := ""
  codexModelReasoningEffort := ""
  agent := ""
  instructions := ""
  env := ∅

def Child.default : Child where
  dir := ""
  prefix_ := ""

/-- `is_disabled`. -/
def isDisabled (enabled : Option Bool) : Bool :=
  enabled = some false

def ManagedWorkspacePatch.patch (p : ManagedWorkspacePatch) (entry : Workspace) : Workspace :=
  { entry with
    dir := p.dir.getD entry.dir
    description := p.description.getD entry.description
    runtime := p.runtime.getD entry.runtime
    agentProvider := p.agentProvider.getD entry.agentProvider
    shell := p.shell.getD entry.shell
    agent := p.agent.getD entry.agent }

def ManagedChildPatch.patch (p : ManagedChildPatch) (entry : Child) : Child where
  dir := p.dir.getD entry.dir
  prefix_ := p.prefix_.getD entry.prefix_

/-- One turn of the loops of `apply_to`: an entry is removed, or patched after it was
created if need be. -/
def patchEntry {S : Type} (removes : Bool) (patch : S → S) (default : S) (name : String)
    (entries : BTreeMap String S) : BTreeMap String S :=
  if removes then entries.erase name
  else entries.insert name (patch (entries[name]?.getD default))

def ManagedOverlay.applyTo (overlay : ManagedOverlay) (cfg : Config) : Config :=
  { cfg with
    orchestratorRuntime := overlay.policies.orchestratorRuntime.getD cfg.orchestratorRuntime
    defaultAgentProvider := overlay.policies.defaultAgentProvider.getD cfg.defaultAgentProvider
    disableRootOrchestrator :=
      overlay.policies.disableRootOrchestrator.getD cfg.disableRootOrchestrator
    workspaces := overlay.workspaces.toList.foldl
      (fun entries (name, p) =>
        patchEntry (p.delete || isDisabled p.enabled) p.patch .default name entries)
      cfg.workspaces
    children := overlay.children.toList.foldl
      (fun entries (name, p) =>
        patchEntry (p.delete || isDisabled p.enabled) p.patch .default name entries)
      cfg.children }

end Ax.Config
