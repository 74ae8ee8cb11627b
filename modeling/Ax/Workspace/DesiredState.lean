import Ax.Config.Providers
import Ax.Foundation.Sha1
import Ax.Workspace.Manager

/-!
# Desired and recorded agents

A configuration says which workspaces and orchestrators there should be.  What was set up last
is recorded in a state file, one record for each of them, with hashes in place of long texts.

Main results:

- Theorem `wellFormed_buildDesiredStateWithTree`: in a state that is built from a configuration
  each entry has the name under which it is found.
-/

namespace Ax.Workspaces

/-! ## Paths and texts -/

/-- `normalize_path`. -/
def normalizePath (path : String) : String :=
  let out := (Path.components path).foldl (fun out segment =>
    if segment = "" then Path.join out "/"
    else if segment = "." then out
    else if segment = ".." then
      match Path.parent out with
      | some parent => parent
      | none => if Path.isAbsolute path then out else Path.join out ".."
    else Path.join out segment) ""
  if out = "" then (if Path.isAbsolute path then "/" else ".") else out

example : normalizePath "." = "." ∧ normalizePath "./a/../b" = "b" ∧
    normalizePath "/a//b/./../c" = "/a/c" := by
  decide

/-- `clean_path_str`. -/
def cleanPathStr (path : String) : String :=
  if Text.trim path = "" then "" else normalizePath path

/-- `hash_text`. -/
def hashText (value : String) : String :=
  Hex.encode (Sha1.digest value.toUTF8.toList)

/-- `clean_runtime`. -/
def cleanRuntime (runtime : String) : String :=
  let known := Text.toAsciiLowercase (Text.trim runtime)
  if known = "" then "claude" else known

/-! ## The desired state -/

structure DesiredWorkspace where
  name : String
  workspace : Config.Workspace
deriving DecidableEq

structure DesiredOrchestrator where
  name : String
  node : Config.ProjectNode
  parentName : String
  artifactDir : String
  runtime : String
  root : Bool
  managedSession : Bool
  promptHash : String

structure DesiredState where
  socketPath : String
  configPath : String
  workspaces : BTreeMap String DesiredWorkspace
  orchestrators : BTreeMap String DesiredOrchestrator
  agentProviderHashes : BTreeMap String String
  maxConcurrentAgents : Nat

def providerFingerprint (config : Config) (name : String) : String :=
  s!"id={name}" ++
    match config.agentProviders[name]? with
    | none => ""
    | some provider =>
      "\nruntime=" ++ Text.trim provider.runtime ++ "\nmodel=" ++ Text.trim provider.model ++
      "\nbase_url=" ++ Text.trim provider.baseUrl ++ "\nenv_key=" ++ Text.trim provider.envKey ++
      "\nwire_api=" ++ Text.trim provider.wireApi ++
      "\nweb_search=" ++ Text.trim provider.webSearch

/-- `agent_provider_hashes`. -/
def agentProviderHashes (config : Config) : BTreeMap String String :=
  config.workspaces.toList.foldl (fun out entry =>
    match (Config.nonEmpty entry.2.agentProvider).or
        (Config.nonEmpty config.defaultAgentProvider) with
    | none => out
    | some provider => out.insert entry.1 (hashText (providerFingerprint config provider))) ∅

/-- `build_desired_state`. -/
def buildDesiredState (config : Config) (socketPath configPath : String) : DesiredState where
  socketPath := socketPath
  configPath := configPath
  workspaces := (config.workspaces.toList.map fun entry =>
      (entry.1, DesiredWorkspace.mk entry.1 entry.2)).foldl
    (fun out entry => out.insert entry.1 entry.2) ∅
  orchestrators := ∅
  agentProviderHashes := agentProviderHashes config
  maxConcurrentAgents := config.maxConcurrentAgents

def desiredOrchestrator (host : Host) (node : Config.ProjectNode) (parentName : String)
    (runtime : Runtime) (artifactDir : String) : DesiredOrchestrator where
  name := orchestratorName node.prefix_
  node := node
  parentName := parentName
  artifactDir := artifactDir
  runtime := runtime.asStr
  root := node.prefix_ = ""
  managedSession := node.prefix_ ≠ ""
  promptHash := hashText (host.texts.orchestratorPrompt node node.prefix_ parentName [])

/-- What `append_desired_orchestrators` does at one project, before its children. -/
def appendSelf (host : Host) (node : Config.ProjectNode) (parentName : String)
    (includeSelf : Bool) (out : BTreeMap String DesiredOrchestrator) :
    Except OrchestratorError (BTreeMap String DesiredOrchestrator × String) := do
  let runtime ← orchestratorRuntime node
  if includeSelf then
    let artifactDir ← orchestratorDirForNode host.home node
    let entry := desiredOrchestrator host node parentName runtime artifactDir
    return (out.insert entry.name entry, entry.name)
  else
    return (out, parentName)

mutual

/-- `append_desired_orchestrators`. -/
def appendDesiredOrchestrators (host : Host) :
    Config.ProjectNode → String → Bool → BTreeMap String DesiredOrchestrator →
      Except OrchestratorError (BTreeMap String DesiredOrchestrator)
  | ⟨name, alias_, prefix_, dir, runtime, disabled, workspaces, children⟩, parentName,
      includeSelf, out => do
    let (out, childParentName) ← appendSelf host
      ⟨name, alias_, prefix_, dir, runtime, disabled, workspaces, children⟩ parentName includeSelf
      out
    appendChildren host children childParentName out

def appendChildren (host : Host) :
    List Config.ProjectNode → String → BTreeMap String DesiredOrchestrator →
      Except OrchestratorError (BTreeMap String DesiredOrchestrator)
  | [], _, out => return out
  | child :: rest, parentName, out => do
    let out ← appendDesiredOrchestrators host child parentName true out
    appendChildren host rest parentName out

end

/-- `build_desired_state_with_tree`. -/
def buildDesiredStateWithTree (host : Host) (config : Config) (tree : Config.ProjectNode)
    (socketPath configPath : String) (includeRoot : Bool) :
    Except OrchestratorError DesiredState := do
  let desired := buildDesiredState config socketPath configPath
  let orchestrators ← appendDesiredOrchestrators host tree "" includeRoot desired.orchestrators
  return { desired with orchestrators := orchestrators }

structure DesiredOrchestrator.WellFormed (host : Host) (name : String)
    (entry : DesiredOrchestrator) : Prop where
  name_eq : entry.name = name
  node_name : orchestratorName entry.node.prefix_ = name
  root_eq : entry.root = decide (entry.node.prefix_ = "")
  managed_eq : entry.managedSession = !entry.root
  dir_eq : orchestratorDirForNode host.home entry.node = .ok entry.artifactDir

structure DesiredState.WellFormed (host : Host) (desired : DesiredState) : Prop where
  workspaces : ∀ name (entry : DesiredWorkspace), desired.workspaces[name]? = some entry →
    entry.name = name
  orchestrators : ∀ name (entry : DesiredOrchestrator),
    desired.orchestrators[name]? = some entry → entry.WellFormed host name

def OrchestratorsWellFormed (host : Host) (out : BTreeMap String DesiredOrchestrator) : Prop :=
  ∀ name (entry : DesiredOrchestrator), out[name]? = some entry → entry.WellFormed host name

variable {host : Host}

lemma wellFormed_appendSelf {node : Config.ProjectNode} {parentName childName : String}
    {includeSelf : Bool} {out out' : BTreeMap String DesiredOrchestrator}
    (hout : OrchestratorsWellFormed host out)
    (h : appendSelf host node parentName includeSelf out = .ok (out', childName)) :
    OrchestratorsWellFormed host out' := by
  obtain ⟨runtime, -, h⟩ := Result.bind_eq_ok.mp h
  cases includeSelf with
  | false =>
    obtain ⟨rfl, -⟩ := Prod.mk.inj (Except.ok.inj h)
    exact hout
  | true =>
    obtain ⟨dir, hdir, h⟩ := Result.bind_eq_ok.mp h
    obtain ⟨rfl, -⟩ := Prod.mk.inj (Except.ok.inj h)
    intro name entry hentry
    rw [BTreeMap.get?_insert] at hentry
    split at hentry
    · rename_i hname
      obtain rfl := Option.some.inj hentry
      exact ⟨hname.symm, hname.symm, rfl, by simp [desiredOrchestrator], hdir⟩
    · exact hout name entry hentry

mutual

lemma wellFormed_appendDesiredOrchestrators {host : Host} (node : Config.ProjectNode)
    {parentName : String} {includeSelf : Bool} {out out' : BTreeMap String DesiredOrchestrator}
    (hout : OrchestratorsWellFormed host out)
    (h : appendDesiredOrchestrators host node parentName includeSelf out = .ok out') :
    OrchestratorsWellFormed host out' := by
  cases node with
  | mk name alias_ prefix_ dir runtime disabled workspaces children =>
    rw [appendDesiredOrchestrators] at h
    obtain ⟨self, hself, h⟩ := Result.bind_eq_ok.mp h
    exact wellFormed_appendChildren children (wellFormed_appendSelf hout hself) h

lemma wellFormed_appendChildren {host : Host} (children : List Config.ProjectNode)
    {parentName : String} {out out' : BTreeMap String DesiredOrchestrator}
    (hout : OrchestratorsWellFormed host out)
    (h : appendChildren host children parentName out = .ok out') :
    OrchestratorsWellFormed host out' := by
  cases children with
  | nil =>
    rw [appendChildren] at h
    obtain rfl := Except.ok.inj h
    exact hout
  | cons child rest =>
    rw [appendChildren] at h
    obtain ⟨mid, hmid, h⟩ := Result.bind_eq_ok.mp h
    exact wellFormed_appendChildren rest (wellFormed_appendDesiredOrchestrators child hout hmid) h

end

lemma get?_workspaces_buildDesiredState (config : Config) (socketPath configPath name : String) :
    (buildDesiredState config socketPath configPath).workspaces[name]? =
      config.workspaces[name]?.map (DesiredWorkspace.mk name) := by
  rw [buildDesiredState, BTreeMap.get?_foldl_insert_entries]
  simp

/-- A state that is built from a configuration is well formed. -/
theorem wellFormed_buildDesiredStateWithTree {config : Config} {tree : Config.ProjectNode}
    {socketPath configPath : String} {includeRoot : Bool} {desired : DesiredState}
    (h : buildDesiredStateWithTree host config tree socketPath configPath includeRoot =
      .ok desired) : desired.WellFormed host := by
  obtain ⟨orchestrators, horchestrators, h⟩ := Result.bind_eq_ok.mp h
  obtain rfl := Except.ok.inj h
  refine ⟨fun name entry hentry => ?_, ?_⟩
  · rw [get?_workspaces_buildDesiredState] at hentry
    obtain ⟨workspace, -, rfl⟩ := Option.map_eq_some_iff.mp hentry
    rfl
  · refine wellFormed_appendDesiredOrchestrators tree ?_ horchestrators
    intro name entry hentry
    simp [buildDesiredState] at hentry

/-! ## Accepted configurations -/

structure Accepted (u : Unicode) (disk : Config.Disk) (host : Host) (configPath : String)
    (desired : DesiredState) : Prop where
  exists_loaded : ∃ fuel config tree socketPath includeRoot,
    Config.load u disk fuel configPath = some (.ok config) ∧
    Config.loadTree u disk fuel configPath = some (.ok tree) ∧
    buildDesiredStateWithTree host config tree socketPath configPath includeRoot = .ok desired

def desiredOn (u : Unicode) (disk : Config.Disk) (fuel : Nat) (host : Host)
    (socketPath configPath : String) : Option DesiredState := do
  let config ← (← Config.load u disk fuel configPath).toOption
  let tree ← (← Config.loadTree u disk fuel configPath).toOption
  (buildDesiredStateWithTree host config tree socketPath configPath
    (!config.disableRootOrchestrator)).toOption

lemma accepted_of_desiredOn {u : Unicode} {disk : Config.Disk} {fuel : Nat}
    {socketPath configPath : String} {desired : DesiredState}
    (h : desiredOn u disk fuel host socketPath configPath = some desired) :
    Accepted u disk host configPath desired := by
  obtain ⟨loaded, hload, h₁⟩ := Option.bind_eq_some_iff.mp h
  obtain ⟨config, hconfig, h₂⟩ := Option.bind_eq_some_iff.mp h₁
  obtain ⟨loadedTree, hloadTree, h₃⟩ := Option.bind_eq_some_iff.mp h₂
  obtain ⟨tree, htree, hdesired⟩ := Option.bind_eq_some_iff.mp h₃
  rw [Result.toOption_eq_some] at hconfig htree hdesired
  subst hconfig htree
  exact ⟨fuel, config, tree, socketPath, _, hload, hloadTree, hdesired⟩

/-! ## The smallest desired state -/

def Host.plain : Host where
  home := some "/home/ax"
  texts := ⟨[], fun _ _ _ _ => ""⟩

def DesiredState.only (name dir : String) : DesiredState where
  socketPath := "/run/ax.sock"
  configPath := "/p/.ax/config.yaml"
  workspaces := (∅ : BTreeMap String DesiredWorkspace).insert name
    ⟨name, { Config.Workspace.default with dir := dir }⟩
  orchestrators := ∅
  agentProviderHashes := ∅
  maxConcurrentAgents := 8

lemma DesiredState.wellFormed_only (host : Host) (name dir : String) :
    (only name dir).WellFormed host where
  workspaces other entry h := by
    rw [only, BTreeMap.get?_insert] at h
    split at h
    · rename_i heq
      rw [← Option.some.inj h, heq]
    · simp at h
  orchestrators other entry h := by
    simp [only] at h

end Ax.Workspaces
