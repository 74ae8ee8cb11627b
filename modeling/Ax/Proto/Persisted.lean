import Ax.Config.Document
import Ax.Proto.Team

/-!
# Persisted records

Messages, memories, team states and configurations as they are saved, field by field in the
order of the records.  A field that a skip rule leaves out is read back as its default.  The
text form of JSON and YAML is not looked at, and how times are written is a parameter.

Main results:

- Theorem `persisted_roundtrip`: what is saved is read back as it was.
-/

namespace Ax

/-! ## Names of enumerations -/

def TeamEntryKind.rename : TeamEntryKind → String
  | .workspace => "workspace"
  | .child => "child"
  | .rootOrchestrator => "root_orchestrator"

def TeamEntryKind.parse : String → Option TeamEntryKind
  | "workspace" => some .workspace
  | "child" => some .child
  | "root_orchestrator" => some .rootOrchestrator
  | _ => none

def TeamReconcileMode.rename : TeamReconcileMode → String
  | .artifactsOnly => "artifacts_only"
  | .startMissing => "start_missing"

def TeamReconcileMode.parse : String → Option TeamReconcileMode
  | "artifacts_only" => some .artifactsOnly
  | "start_missing" => some .startMissing
  | _ => none

/-! ## Skip rules -/

def teamOverlayIsEmpty (o : TeamOverlay) : Bool :=
  o.disableRootOrchestrator.isNone && o.addedWorkspaces.isEmpty && o.removedWorkspaces.isEmpty &&
    o.disabledWorkspaces.isEmpty && o.addedChildren.isEmpty && o.removedChildren.isEmpty &&
    o.disabledChildren.isEmpty

/-- The overlay that is left out is the default one: no part of an overlay is forgotten. -/
theorem eq_default_of_teamOverlayIsEmpty (o : TeamOverlay) (h : teamOverlayIsEmpty o = true) :
    o = .default := by
  simp only [teamOverlayIsEmpty, Bool.and_eq_true, Option.isNone_iff_eq_none,
    Std.ExtTreeMap.isEmpty_iff] at h
  obtain ⟨⟨⟨⟨⟨⟨hroot, hadded⟩, hremoved⟩, hdisabled⟩, hchildren⟩, hgone⟩, hoff⟩ := h
  cases o
  simp_all [TeamOverlay.default]

/-! ## Records -/

namespace Persisted

def teamEntryKind : Codec TeamEntryKind :=
  .text TeamEntryKind.rename TeamEntryKind.parse fun a => by cases a <;> rfl

def teamReconcileMode : Codec TeamReconcileMode :=
  .text TeamReconcileMode.rename TeamReconcileMode.parse fun a => by cases a <;> rfl

def teamWorkspaceSpec : Codec TeamWorkspaceSpec :=
  (Record.start TeamWorkspaceSpec.mk
    |>.field (.required "dir" .string) TeamWorkspaceSpec.dir
    |>.field (.skipped "description" .string "") TeamWorkspaceSpec.description
    |>.field (.skipped "shell" .string "") TeamWorkspaceSpec.shell
    |>.field (.skipped "runtime" .string "") TeamWorkspaceSpec.runtime
    |>.field (.skipped "agent_provider" .string "") TeamWorkspaceSpec.agentProvider
    |>.field (.skipped "codex_model_reasoning_effort" .string "")
      TeamWorkspaceSpec.codexModelReasoningEffort
    |>.field (.skipped "agent" .string "") TeamWorkspaceSpec.agent
    |>.field (.skipped "instructions" .string "") TeamWorkspaceSpec.instructions
    |>.field (.skipped "env" (.mapping .string) ∅) TeamWorkspaceSpec.env).codec
      (fun _ => rfl) (by decide)

def teamChildSpec : Codec TeamChildSpec :=
  (Record.start TeamChildSpec.mk
    |>.field (.required "dir" .string) TeamChildSpec.dir
    |>.field (.skipped "prefix" .string "") TeamChildSpec.prefix_).codec (fun _ => rfl) (by decide)

def teamOverlay : Codec TeamOverlay :=
  (Record.start TeamOverlay.mk
    |>.field (.optional "disable_root_orchestrator" .bool) TeamOverlay.disableRootOrchestrator
    |>.field (.skipped "added_workspaces" (.mapping teamWorkspaceSpec) ∅)
      TeamOverlay.addedWorkspaces
    |>.field (.skipped "removed_workspaces" (.mapping .bool) ∅) TeamOverlay.removedWorkspaces
    |>.field (.skipped "disabled_workspaces" (.mapping .bool) ∅) TeamOverlay.disabledWorkspaces
    |>.field (.skipped "added_children" (.mapping teamChildSpec) ∅) TeamOverlay.addedChildren
    |>.field (.skipped "removed_children" (.mapping .bool) ∅) TeamOverlay.removedChildren
    |>.field (.skipped "disabled_children" (.mapping .bool) ∅)
      TeamOverlay.disabledChildren).codec (fun _ => rfl) (by simp)

def teamConfiguredState : Codec TeamConfiguredState :=
  (Record.start TeamConfiguredState.mk
    |>.field (.required "root_orchestrator_enabled" .bool)
      TeamConfiguredState.rootOrchestratorEnabled
    |>.field (.skipped "workspaces" (.list .string) []) TeamConfiguredState.workspaces
    |>.field (.skipped "children" (.list .string) []) TeamConfiguredState.children
    |>.field (.skipped "orchestrators" (.list .string) [])
      TeamConfiguredState.orchestrators).codec (fun _ => rfl) (by simp)

def teamReconfigureAction : Codec TeamReconfigureAction :=
  (Record.start TeamReconfigureAction.mk
    |>.field (.required "action" .string) TeamReconfigureAction.action
    |>.field (.required "kind" teamEntryKind) TeamReconfigureAction.kind
    |>.field (.skipped "name" .string "") TeamReconfigureAction.name
    |>.field (.skipped "dir" .string "") TeamReconfigureAction.dir
    |>.field (.skipped "detail" .string "") TeamReconfigureAction.detail).codec
      (fun _ => rfl) (by simp)

variable (time : Codec Timestamp)

def teamApplyReport : Codec TeamApplyReport :=
  (Record.start TeamApplyReport.mk
    |>.field (.required "started_at" time) TeamApplyReport.startedAt
    |>.field (.optional "finished_at" time) TeamApplyReport.finishedAt
    |>.field (.required "success" .bool) TeamApplyReport.success
    |>.field (.skipped "error" .string "") TeamApplyReport.error
    |>.field (.optional "reconcile_mode" teamReconcileMode) TeamApplyReport.reconcileMode
    |>.field (.skipped "actions" (.list teamReconfigureAction) []) TeamApplyReport.actions).codec
      (fun _ => rfl) (by simp)

def teamReconfigureState : Codec TeamReconfigureState :=
  (Record.start TeamReconfigureState.mk
    |>.field (.required "team_id" .string) TeamReconfigureState.teamId
    |>.field (.required "base_config_path" .string) TeamReconfigureState.baseConfigPath
    |>.field (.required "effective_config_path" .string) TeamReconfigureState.effectiveConfigPath
    |>.field (.required "feature_enabled" .bool) TeamReconfigureState.featureEnabled
    |>.field (.required "revision" .int) TeamReconfigureState.revision
    |>.field (.skippedIf "overlay" teamOverlay teamOverlayIsEmpty .default
      eq_default_of_teamOverlayIsEmpty) TeamReconfigureState.overlay
    |>.field (.required "desired" teamConfiguredState) TeamReconfigureState.desired
    |>.field (.optional "last_apply" (teamApplyReport time))
      TeamReconfigureState.lastApply).codec (fun _ => rfl) (by simp)

def message : Codec Message :=
  (Record.start Message.mk
    |>.field (.required "id" .string) Message.id
    |>.field (.required "from" .string) Message.sender
    |>.field (.required "to" .string) Message.recipient
    |>.field (.required "content" .string) Message.content
    |>.field (.skipped "task_id" .string "") Message.taskId
    |>.field (.required "created_at" time) Message.createdAt).codec (fun _ => rfl) (by simp)

def memory : Codec Memory :=
  (Record.start Memory.mk
    |>.field (.required "id" .string) Memory.id
    |>.field (.required "scope" .string) Memory.scope
    |>.field (.required "kind" .string) Memory.kind
    |>.field (.skipped "subject" .string "") Memory.subject
    |>.field (.required "content" .string) Memory.content
    |>.field (.skipped "tags" (.list .string) []) Memory.tags
    |>.field (.required "created_by" .string) Memory.createdBy
    |>.field (.skipped "supersedes" (.list .string) []) Memory.supersedes
    |>.field (.skipped "superseded_by" .string "") Memory.supersededBy
    |>.field (.optional "superseded_at" time) Memory.supersededAt
    |>.field (.required "created_at" time) Memory.createdAt
    |>.field (.required "updated_at" time) Memory.updatedAt).codec (fun _ => rfl) (by simp)

end Persisted

/-- Saved messages, memories, team states and configurations are read back as they were, for
every combination of fields that are left out. -/
theorem persisted_roundtrip (time : Codec Timestamp) :
    (∀ m, (Persisted.message time).decode ((Persisted.message time).encode m) = .ok m) ∧
    (∀ m, (Persisted.memory time).decode ((Persisted.memory time).encode m) = .ok m) ∧
    (∀ state, (Persisted.teamReconfigureState time).decode
      ((Persisted.teamReconfigureState time).encode state) = .ok state) ∧
    ∀ cfg, Config.configCodec.decode (Config.configCodec.encode cfg) = .ok cfg :=
  ⟨(Persisted.message time).decode_encode, (Persisted.memory time).decode_encode,
    (Persisted.teamReconfigureState time).decode_encode, Config.configCodec.decode_encode⟩

/-- A message without a task, saved with its time as a number. -/
theorem persisted_roundtrip_message :
    let saved := Json.obj [("id", .str "m"), ("from", .str "ann"), ("to", .str "bob"),
      ("content", .str "hi"), ("created_at", .num (-5))]
    (Persisted.message .int).encode ⟨"m", "ann", "bob", "hi", "", -5⟩ = saved ∧
      (Persisted.message .int).decode saved = .ok ⟨"m", "ann", "bob", "hi", "", -5⟩ :=
  ⟨rfl, (persisted_roundtrip .int).1 ⟨"m", "ann", "bob", "hi", "", -5⟩⟩

end Ax
