import Mathlib.Data.List.Sort
import Ax.Config.Schema
import Ax.Foundation.AtomicFile
import Ax.Proto.Team

/-!
# Team overlays

How a list of changes is merged into a team's overlay, how an overlay and the
base configuration file give the effective configuration, and which actions
lead from one configuration to the next.  A change is checked against the
configuration that the base and the overlay give before it, so the effective
configuration is computed again after every change of a list.
-/

namespace Ax.Daemon

inductive TeamStateError
  | read (path source : String)
  | decode (path source : String)
  | encode (source : String)
  | persist (reason : String)
deriving DecidableEq, Repr

inductive TeamError
  | configPathRequired
  | resolveConfigPath (path source : String)
  | revisionMismatch (expected got : Int)
  | featureDisabled (key : String)
  | applyInProgress (teamId : String)
  | tokenNotFound (token : String)
  | stateNotFound (teamId : String)
  | workspaceNameRequired
  | workspaceSpecRequired
  | workspaceAlreadyExists (name : String)
  | childNameRequired
  | childSpecRequired
  | childAlreadyExists (name : String)
  | childDirRequired
  | rootOrchestratorOpUnsupported
  | loadConfig (path source : String)
  | readRaw (path source : String)
  | save (path source : String)
  | mkState (path source : String)
  | persist (error : TeamStateError)
deriving DecidableEq, Repr

structure TeamEnv where
  unicode : Unicode
  home : Option String
  flag : Option String
  absolute : String → Except String String
  shortTeamHash : String → String
  now : Timestamp
  files : Config.Files
  write : WriteOutcome

namespace Team

/-! ## Configuration files -/

/-- `canonical_config_path`. -/
def canonicalConfigPath (env : TeamEnv) (configPath : String) : Except TeamError String :=
  let path := Text.trim configPath
  if path = "" then .error .configPathRequired
  else (env.absolute path).mapError (.resolveConfigPath path)

/-- `load_config`. -/
def loadConfig (env : TeamEnv) (path : String) : Except TeamError Config :=
  (env.files.load path).mapError (.loadConfig path)

/-- `load_tree`. -/
def loadTree (env : TeamEnv) (path : String) : Except TeamError Config.ProjectNode :=
  (env.files.loadTree path).mapError (.loadConfig path)

/-- `load_raw_config`. -/
def loadRawConfig (env : TeamEnv) (path : String) : Except TeamError Config :=
  (env.files.readLocal path).mapError (.readRaw path)

/-- `config_root_dir`. -/
def configRootDir (configPath : String) : String :=
  Config.rootFromConfigPath configPath

/-- `resolve_overlay_dir`. -/
def resolveOverlayDir (env : TeamEnv) (baseDir value : String) : String :=
  let trimmed := Text.trim value
  let v := if trimmed = "" then "." else trimmed
  match v.toList, env.home with
  | '~' :: '/' :: rest, some home => Path.join home (String.ofList rest)
  | _, _ => if Path.isAbsolute v then v else Path.join baseDir v

/-! ## Applying changes -/

structure EntryMaps (S : Type) where
  added : BTreeMap String S
  removed : BTreeMap String Bool
  disabled : BTreeMap String Bool

structure EntryKind (S : Type) where
  word : String
  nameRequired : TeamError
  specRequired : TeamError
  alreadyExists : String → TeamError
  resolve : S → Except TeamError S

/-- A change of an entry that `present` says to exist or not: the new maps and
the warnings it adds. -/
def applyEntryChange {S : Type} (env : TeamEnv) (kind : EntryKind S) (present : String → Bool)
    (maps : EntryMaps S) (op : TeamChangeOp) (rawName : String) (spec : Option S) :
    Except TeamError (EntryMaps S × List String) :=
  let name := Text.trim rawName
  let quoted := Text.debugStr env.unicode name
  if name = "" then .error kind.nameRequired
  else
    match op with
    | .add =>
      match spec with
      | none => .error kind.specRequired
      | some spec =>
        if present name then .error (kind.alreadyExists name)
        else
          match kind.resolve spec with
          | .error e => .error e
          | .ok spec =>
            .ok (⟨maps.added.insert name spec, maps.removed.erase name,
              maps.disabled.erase name⟩, [])
    | .remove =>
      if present name then
        .ok (⟨maps.added.erase name, maps.removed.insert name true,
          maps.disabled.erase name⟩, [])
      else .ok (maps, [s!"{kind.word} {quoted} is already absent"])
    | .disable =>
      if present name then
        .ok ({ maps with
          removed := maps.removed.erase name
          disabled := maps.disabled.insert name true }, [])
      else .ok (maps, [s!"{kind.word} {quoted} is already absent/disabled"])
    | .enable =>
      -- A removed entry that is disabled too needs a second request.
      if maps.removed.contains name then
        .ok ({ maps with removed := maps.removed.erase name }, [])
      else if maps.disabled.contains name then
        .ok ({ maps with disabled := maps.disabled.erase name }, [])
      else .ok (maps, [s!"{kind.word} {quoted} is already enabled"])

def workspaceEntries (env : TeamEnv) (base : String) : EntryKind TeamWorkspaceSpec where
  word := "workspace"
  nameRequired := .workspaceNameRequired
  specRequired := .workspaceSpecRequired
  alreadyExists := .workspaceAlreadyExists
  resolve spec := .ok { spec with dir := resolveOverlayDir env (configRootDir base) spec.dir }

def childEntries (env : TeamEnv) (base : String) : EntryKind TeamChildSpec where
  word := "child"
  nameRequired := .childNameRequired
  specRequired := .childSpecRequired
  alreadyExists := .childAlreadyExists
  resolve spec :=
    let dir := resolveOverlayDir env (configRootDir base) spec.dir
    if Text.trim dir = "" then .error .childDirRequired else .ok { spec with dir := dir }

/-- `apply_workspace_change`. -/
def applyWorkspaceChange (env : TeamEnv) (base : String) (currentRaw : Config)
    (overlay : TeamOverlay) (change : TeamReconfigureChange) :
    Except TeamError (TeamOverlay × List String) :=
  (applyEntryChange env (workspaceEntries env base) currentRaw.workspaces.contains
    ⟨overlay.addedWorkspaces, overlay.removedWorkspaces, overlay.disabledWorkspaces⟩
    change.op change.name change.workspace).map
    fun (maps, warnings) =>
      ({ overlay with
          addedWorkspaces := maps.added
          removedWorkspaces := maps.removed
          disabledWorkspaces := maps.disabled }, warnings)

/-- `apply_child_change`. -/
def applyChildChange (env : TeamEnv) (base : String) (currentRaw : Config)
    (overlay : TeamOverlay) (change : TeamReconfigureChange) :
    Except TeamError (TeamOverlay × List String) :=
  (applyEntryChange env (childEntries env base) currentRaw.children.contains
    ⟨overlay.addedChildren, overlay.removedChildren, overlay.disabledChildren⟩
    change.op change.name change.child).map
    fun (maps, warnings) =>
      ({ overlay with
          addedChildren := maps.added
          removedChildren := maps.removed
          disabledChildren := maps.disabled }, warnings)

/-- `apply_root_orchestrator_change`. -/
def applyRootOrchestratorChange (overlay : TeamOverlay) (change : TeamReconfigureChange) :
    Except TeamError (TeamOverlay × List String) :=
  match change.op with
  | .disable => .ok ({ overlay with disableRootOrchestrator := some true }, [])
  | .enable => .ok ({ overlay with disableRootOrchestrator := some false }, [])
  | .add | .remove => .error .rootOrchestratorOpUnsupported

/-- `apply_single_change`: the new overlay and the warnings of one change. -/
def applySingleChange (env : TeamEnv) (base : String) (currentRaw : Config)
    (overlay : TeamOverlay) (change : TeamReconfigureChange) :
    Except TeamError (TeamOverlay × List String) :=
  match change.kind with
  | .workspace => applyWorkspaceChange env base currentRaw overlay change
  | .child => applyChildChange env base currentRaw overlay change
  | .rootOrchestrator => applyRootOrchestratorChange overlay change

/-- `overlay_has_changes`. -/
def overlayHasChanges (overlay : TeamOverlay) : Bool :=
  overlay.disableRootOrchestrator.isSome || !overlay.addedWorkspaces.isEmpty ||
    !overlay.removedWorkspaces.isEmpty || !overlay.disabledWorkspaces.isEmpty ||
    !overlay.addedChildren.isEmpty || !overlay.removedChildren.isEmpty ||
    !overlay.disabledChildren.isEmpty

def renewed {S : Type} (m : BTreeMap String S) : BTreeMap String S :=
  if m.isEmpty then ∅ else m

/-- `normalize_overlay`. -/
def normalizeOverlay (overlay : TeamOverlay) : TeamOverlay where
  disableRootOrchestrator := overlay.disableRootOrchestrator
  addedWorkspaces := renewed overlay.addedWorkspaces
  removedWorkspaces := renewed overlay.removedWorkspaces
  disabledWorkspaces := renewed overlay.disabledWorkspaces
  addedChildren := renewed overlay.addedChildren
  removedChildren := renewed overlay.removedChildren
  disabledChildren := renewed overlay.disabledChildren

/-! ## The effective configuration -/

def eraseAll {S : Type} (m : BTreeMap String S) (names : List String) : BTreeMap String S :=
  names.foldl (fun m name => m.erase name) m

def insertAll {S : Type} (m : BTreeMap String S) (entries : List (String × S)) :
    BTreeMap String S :=
  entries.foldl (fun m entry => m.insert entry.1 entry.2) m

def workspaceOfSpec (env : TeamEnv) (root : String) (spec : TeamWorkspaceSpec) :
    Config.Workspace where
  dir := resolveOverlayDir env root spec.dir
  description := spec.description
  shell := spec.shell
  runtime := spec.runtime
  agentProvider := spec.agentProvider
  codexModelReasoningEffort := spec.codexModelReasoningEffort
  agent := spec.agent
  instructions := spec.instructions
  env := spec.env

def childOfSpec (env : TeamEnv) (root : String) (spec : TeamChildSpec) : Config.Child where
  dir := resolveOverlayDir env root spec.dir
  prefix_ := spec.prefix_

def overlaidWorkspaces (env : TeamEnv) (root : String) (raw : Config) (overlay : TeamOverlay) :
    BTreeMap String Config.Workspace :=
  let resolved := raw.workspaces.map
    fun _ ws => { ws with dir := resolveOverlayDir env root ws.dir }
  let kept := eraseAll (eraseAll resolved overlay.removedWorkspaces.keys)
    overlay.disabledWorkspaces.keys
  insertAll kept (overlay.addedWorkspaces.toList.map
    fun (name, spec) => (name, workspaceOfSpec env root spec))

def overlaidChildren (env : TeamEnv) (root : String) (raw : Config) (overlay : TeamOverlay) :
    BTreeMap String Config.Child :=
  let resolved := raw.children.map
    fun _ child => { child with dir := resolveOverlayDir env root child.dir }
  let kept := eraseAll (eraseAll resolved overlay.removedChildren.keys)
    overlay.disabledChildren.keys
  insertAll kept (overlay.addedChildren.toList.map
    fun (name, spec) => (name, childOfSpec env root spec))

/-- `materialize_raw_config`. -/
def materializeRawConfig (env : TeamEnv) (base : String) (overlay : TeamOverlay) :
    Except TeamError Config :=
  (loadRawConfig env base).map fun raw =>
    let root := configRootDir base
    { raw with
      disableRootOrchestrator :=
        overlay.disableRootOrchestrator.getD raw.disableRootOrchestrator
      workspaces := overlaidWorkspaces env root raw overlay
      children := overlaidChildren env root raw overlay }

/-- The loop of `apply_changes`: each change is checked against the effective
configuration before it. -/
def applyChangesLoop (env : TeamEnv) (base : String) :
    List TeamReconfigureChange → Config → TeamOverlay → List String →
      Except TeamError (TeamOverlay × List String)
  | [], _, overlay, warnings => .ok (overlay, warnings)
  | change :: rest, currentRaw, overlay, warnings => do
      let (overlay, added) ← applySingleChange env base currentRaw overlay change
      let currentRaw ← materializeRawConfig env base overlay
      applyChangesLoop env base rest currentRaw overlay (warnings ++ added)

/-- `apply_changes`: the overlay after a list of changes, and the warnings. -/
def applyChanges (env : TeamEnv) (base : String) (currentOverlay : TeamOverlay)
    (changes : List TeamReconfigureChange) : Except TeamError (TeamOverlay × List String) := do
  let currentRaw ← materializeRawConfig env base currentOverlay
  let (overlay, warnings) ← applyChangesLoop env base changes currentRaw currentOverlay []
  .ok (normalizeOverlay overlay, warnings)

/-! ## Orchestrators, summary and actions -/

/-- `orchestrator_dir_for_node`; the root's directory needs a home directory. -/
def orchestratorDirForNode (env : TeamEnv) (prefix_ dir : String) : Option String :=
  if prefix_ = "" then
    env.home.map fun home => Path.join (Path.join home ".ax") "orchestrator"
  else
    let safe := String.ofList (prefix_.toList.map fun c => if c = '.' then '_' else c)
    some (Path.join (Path.join dir ".ax") ("orchestrator-" ++ safe))

def insertOrchestrator (env : TeamEnv) (prefix_ dir : String) (disableRootOrchestrator : Bool)
    (out : BTreeMap String String) : BTreeMap String String :=
  if prefix_ = "" ∧ disableRootOrchestrator then out
  else
    match orchestratorDirForNode env prefix_ dir with
    | none => out
    | some dir =>
      let name := if prefix_ = "" then "orchestrator" else prefix_ ++ ".orchestrator"
      out.insert name dir

mutual

/-- `walk_tree`. -/
def walkTree (env : TeamEnv) :
    Config.ProjectNode → BTreeMap String String → BTreeMap String String
  | ⟨_, _, prefix_, dir, _, disableRootOrchestrator, _, children⟩, out =>
    walkTrees env children (insertOrchestrator env prefix_ dir disableRootOrchestrator out)

/-- `walk_tree` over the children of a node. -/
def walkTrees (env : TeamEnv) :
    List Config.ProjectNode → BTreeMap String String → BTreeMap String String
  | [], out => out
  | child :: rest, out => walkTrees env rest (walkTree env child out)

end

/-- `collect_orchestrator_info`: the directories of the orchestrators by name. -/
def collectOrchestratorInfo (env : TeamEnv) (tree : Config.ProjectNode) :
    BTreeMap String String :=
  walkTree env tree ∅

/-- `build_desired_summary`. -/
def buildDesiredSummary (env : TeamEnv) (raw loaded : Config) (tree : Config.ProjectNode) :
    TeamConfiguredState where
  rootOrchestratorEnabled := !tree.disableRootOrchestrator
  workspaces := loaded.workspaces.keys
  children := raw.children.keys
  orchestrators := (collectOrchestratorInfo env tree).keys.insertionSort (· ≤ ·)

/-- `summarize_current_desired`. -/
def summarizeCurrentDesired (env : TeamEnv) (base : String) :
    Except TeamError TeamConfiguredState := do
  let cfg ← loadConfig env base
  let tree ← loadTree env base
  let raw ← loadRawConfig env base
  .ok (buildDesiredSummary env raw cfg tree)

/-- `kind_rank`. -/
def kindRank : TeamEntryKind → Nat
  | .child => 0
  | .rootOrchestrator => 1
  | .workspace => 2

def actionOrder (a b : TeamReconfigureAction) : Ordering :=
  (compare (kindRank a.kind) (kindRank b.kind)).then
    ((compare a.name b.name).then (compare a.action b.action))

/-- Actions `action` for the entries of `from_` that `to_` lacks. -/
def actionsForMissing {S : Type} (action : String) (kind : TeamEntryKind) (dir : S → String)
    (from_ to_ : BTreeMap String S) : List TeamReconfigureAction :=
  (from_.toList.filter fun (name, _) => !to_.contains name).map fun (name, entry) =>
    { action := action, kind := kind, name := name, dir := dir entry, detail := "" }

/-- `diff_team_actions`. -/
def diffTeamActions (env : TeamEnv) (currentCfg : Config) (currentTree : Config.ProjectNode)
    (nextCfg : Config) (nextTree : Config.ProjectNode) : List TeamReconfigureAction :=
  let currentOrchs := collectOrchestratorInfo env currentTree
  let nextOrchs := collectOrchestratorInfo env nextTree
  let actions :=
    actionsForMissing "destroy" .workspace (·.dir) currentCfg.workspaces nextCfg.workspaces ++
    actionsForMissing "ensure" .workspace (·.dir) nextCfg.workspaces currentCfg.workspaces ++
    actionsForMissing "destroy" .rootOrchestrator id currentOrchs nextOrchs ++
    actionsForMissing "ensure" .rootOrchestrator id nextOrchs currentOrchs
  actions.insertionSort fun a b => actionOrder a b ≠ .gt

end Team
end Ax.Daemon
