import Ax.Workspace.Artifacts

/-!
# Sessions with their files

A workspace is a session of its own name and the files of its directory; so is the orchestrator
of a project, with a directory that ax makes for it.  Both are set up before the session is
started, and their files are cleaned up after it was stopped.

Main results:

- Theorems `uses_*`: what each of these programs can do, to the session and to files.
- Theorems `live_of_*`: the sessions after each of them succeeded.
-/

namespace Ax.Workspaces

open Prog (ask raise within whenever)
open Fallible

structure Host where
  home : Option String
  texts : Instructions.Texts

structure Setup where
  socketPath : String
  configPath : Option String
  axBin : String
deriving DecidableEq, Repr

/-! ## Stopping a session -/

def destroyIfLive {ε : Type} (wrap : Tmux.TmuxError → ε) (name : String) : Action ε Unit := do
  let live ← ask (Cmd.sessionExists name)
  whenever live do
    let destroyed ← ask (Cmd.destroySession name)
    raise wrap destroyed

/-! ## Workspaces -/

inductive WorkspaceError
  | unsupportedRuntime (runtime : String)
  | createDir (path : String) (source : Config.IoError)
  | sessionExists (session : String)
  | tmux (source : Tmux.TmuxError)
  | mcpConfig (source : McpConfigError)
  | instructions (source : InstructionsError)
  | codexHome (source : String)
deriving DecidableEq, Repr

/-- `runtime_for_name`. -/
def runtimeForName (name : String) : Except WorkspaceError Runtime :=
  (Runtime.normalize name).elim (.error (.unsupportedRuntime name)) .ok

/-- `ensure_artifacts`. -/
def ensureArtifacts (host : Host) (setup : Setup) (name : String) (workspace : Config.Workspace) :
    Action WorkspaceError Unit := do
  let runtime ← raise id (runtimeForName workspace.runtime)
  let made ← ask (Cmd.createDirAll workspace.dir)
  raise (.createDir workspace.dir) made
  within .mcpConfig
    (writeMcpConfig workspace.dir name setup.socketPath setup.configPath setup.axBin)
  within .instructions
    (writeInstructions host.texts workspace.dir name runtime.asStr workspace.instructions)
  whenever (runtime = .codex) do
    let prepared ← ask
      (Cmd.prepareCodexHome name workspace.dir setup.socketPath setup.axBin setup.configPath)
    raise .codexHome prepared

/-- `cleanup_workspace_artifacts`. -/
def cleanupWorkspaceArtifacts (name dir : String) : Action WorkspaceError Unit :=
  whenever (Text.trim dir ≠ "") do
    within .mcpConfig (removeMcpConfig dir)
    within .instructions (removeInstructions dir)
    let removed ← ask (Cmd.removeCodexHome name dir)
    raise .codexHome removed

/-- `cleanup_workspace_state`. -/
def cleanupWorkspaceState (name dir : String) : Action WorkspaceError Unit := do
  destroyIfLive .tmux name
  cleanupWorkspaceArtifacts name dir

/-- `managed_run_agent_args`. -/
def managedRunAgentArgs (setup : Setup) (runtime : Runtime) (workspace : String) (fresh : Bool) :
    List String :=
  [setup.axBin, "run-agent", "--runtime", runtime.asStr, "--workspace", workspace, "--socket",
    setup.socketPath] ++
  (match setup.configPath with
    | none => []
    | some path => ["--config", path]) ++
  if fresh then ["--fresh"] else []

def launchOf (setup : Setup) (runtime : Runtime) (name : String) (workspace : Config.Workspace)
    (fresh : Bool) : Launch :=
  if workspace.agent = "" then .args (managedRunAgentArgs setup runtime name fresh)
  else if workspace.agent = "none" then .shell workspace.shell
  else .command workspace.agent

namespace Manager

/-- `Manager::create_inner`. -/
def createInner (host : Host) (setup : Setup) (name : String) (workspace : Config.Workspace)
    (fresh : Bool) : Action WorkspaceError Unit := do
  let runtime ← raise id (runtimeForName workspace.runtime)
  ensureArtifacts host setup name workspace
  let live : Bool ← ask (Cmd.sessionExists name)
  if live then throw (.sessionExists (Tmux.sessionName name))
  else do
    let created ← ask (Cmd.createSession name workspace.dir
      (launchOf setup runtime name workspace fresh) workspace.env)
    raise .tmux created

/-- `Manager::create`. -/
def create (host : Host) (setup : Setup) (name : String) (workspace : Config.Workspace) :
    Action WorkspaceError Unit :=
  createInner host setup name workspace false

end Manager

/-! ## Orchestrators -/

inductive OrchestratorPromptError
  | unknownRuntime (runtime : String)
  | removeStalePrompt (path : String) (source : Config.IoError)
  | writePrompt (path : String) (source : Config.IoError)
deriving DecidableEq, Repr

inductive OrchestratorError
  | homeUnset
  | nilProjectNode
  | invalidRuntime (name runtime : String)
  | createDir (path : String) (source : Config.IoError)
  | createClaudeDir (path : String) (source : Config.IoError)
  | mcpConfig (source : McpConfigError)
  | tmux (source : Tmux.TmuxError)
  | codexHome (source : String)
  | writePrompt (source : OrchestratorPromptError)
  | removeInstruction (path : String) (source : Config.IoError)
  | removeClaudeDir (path : String) (source : Config.IoError)
  | readDir (path : String) (source : Config.IoError)
  | removeDir (path : String) (source : Config.IoError)
deriving DecidableEq, Repr

/-- `orchestrator_name`. -/
def orchestratorName (prefix_ : String) : String :=
  if prefix_ = "" then "orchestrator" else prefix_ ++ ".orchestrator"

/-- `root_orchestrator_dir`. -/
def rootOrchestratorDir (home : Option String) : Except OrchestratorError String :=
  match home with
  | none => .error .homeUnset
  | some home => .ok (Path.join (Path.join home ".ax") "orchestrator")

/-- `orchestrator_dir_for_node`. -/
def orchestratorDirForNode (home : Option String) (node : Config.ProjectNode) :
    Except OrchestratorError String :=
  if node.prefix_ = "" then rootOrchestratorDir home
  else if node.dir = "" then .error .nilProjectNode
  else
    .ok (Path.join (Path.join node.dir ".ax")
      ("orchestrator-" ++ Tmux.replaceChar '.' '_' node.prefix_))

def orchestratorRuntime (node : Config.ProjectNode) : Except OrchestratorError Runtime :=
  (Runtime.normalize node.orchestratorRuntime).elim
    (.error (.invalidRuntime (orchestratorName node.prefix_) node.orchestratorRuntime)) .ok

/-- `write_orchestrator_prompt`. -/
def writeOrchestratorPrompt (texts : Instructions.Texts) (orchDir : String)
    (node : Config.ProjectNode) (prefix_ parentName runtime socketPath : String) :
    Action OrchestratorPromptError Unit := do
  let runtimeEnum ←
    raise id ((Runtime.normalize runtime).elim (.error (.unknownRuntime runtime)) .ok)
  let memories ← ask (Cmd.promptMemories prefix_ socketPath)
  let target := Path.join orchDir runtimeEnum.instructionFile
  let _ ← Fallible.traverse (fun other : Runtime => do
      let path := Path.join orchDir other.instructionFile
      let removed ← ask (Cmd.removeFile path)
      raise (.removeStalePrompt path) (orNotFound removed))
    (Runtime.supported.filter (· ≠ runtimeEnum))
  let written ← ask
    (Cmd.writeText target (texts.orchestratorPrompt node prefix_ parentName memories))
  raise (.writePrompt target) written

/-- The directory of an orchestrator's runtime settings. -/
def claudeDir (orchDir : String) : String :=
  Path.join orchDir ".claude"

/-- The files of an orchestrator, the first part of `ensure_orchestrator`. -/
def ensureOrchestratorFiles (host : Host) (setup : Setup) (node : Config.ProjectNode)
    (parentName orchDir : String) (runtime : Runtime) : Action OrchestratorError Unit := do
  let selfName := orchestratorName node.prefix_
  let made ← ask (Cmd.createDirAll orchDir)
  raise (.createDir orchDir) made
  let madeClaude ← ask (Cmd.createDirAll (claudeDir orchDir))
  raise (.createClaudeDir (claudeDir orchDir)) madeClaude
  within .mcpConfig
    (writeMcpConfig orchDir selfName setup.socketPath setup.configPath setup.axBin)
  whenever (runtime = .codex) do
    let prepared ← ask
      (Cmd.prepareCodexHome selfName orchDir setup.socketPath setup.axBin setup.configPath)
    raise .codexHome prepared
  within .writePrompt
    (writeOrchestratorPrompt host.texts orchDir node node.prefix_ parentName runtime.asStr
      setup.socketPath)

/-- `ensure_orchestrator`. -/
def ensureOrchestrator (host : Host) (setup : Setup) (node : Config.ProjectNode)
    (parentName : String) (startSession : Bool) : Action OrchestratorError Unit := do
  let selfName := orchestratorName node.prefix_
  let orchDir ← raise id (orchestratorDirForNode host.home node)
  let runtime ← raise id (orchestratorRuntime node)
  ensureOrchestratorFiles host setup node parentName orchDir runtime
  whenever (node.prefix_ ≠ "" && startSession) do
    let live ← ask (Cmd.sessionExists selfName)
    whenever (!live) do
      let created ← ask (Cmd.createSession selfName orchDir
        (.args (managedRunAgentArgs setup runtime selfName false)) ∅)
      raise .tmux created

/-- `cleanup_orchestrator_artifacts`. -/
def cleanupOrchestratorArtifacts (orchDir : String) : Action OrchestratorError Unit :=
  whenever (orchDir ≠ "") do
    within .mcpConfig (removeMcpConfig orchDir)
    let _ ← Fallible.traverse (fun runtime : Runtime => do
        let path := Path.join orchDir runtime.instructionFile
        let removed ← ask (Cmd.removeFile path)
        raise (.removeInstruction path) (orNotFound removed))
      Runtime.supported
    let removed ← ask (Cmd.removeDirAll (claudeDir orchDir))
    raise (.removeClaudeDir (claudeDir orchDir)) (orNotFound removed)
    let count ← ask (Cmd.readDir orchDir)
    match count with
    | .error e => if e.kind = .notFound then pure () else throw (.readDir orchDir e)
    | .ok count =>
      whenever (count = 0) do
        let removed ← ask (Cmd.removeDir orchDir)
        raise (.removeDir orchDir) (orNotFound removed)

/-- `cleanup_orchestrator_state`. -/
def cleanupOrchestratorState (name orchDir : String) : Action OrchestratorError Unit := do
  destroyIfLive .tmux name
  cleanupOrchestratorArtifacts orchDir
  let removed ← ask (Cmd.removeCodexHome name orchDir)
  raise .codexHome removed

/-! ## What these programs can do -/

def IsArtifact (dir path : String) : Prop :=
  path = Path.join dir McpConfig.file ∨ IsInstructionFile dir path

def OnFilesOf (name dir : String) (c : Cmd) : Prop :=
  (∃ path, c.file? = some path ∧ IsArtifact dir path) ∨ c = .createDirAll dir ∨
    c = .removeCodexHome name dir ∨
    ∃ socketPath axBin configPath, c = .prepareCodexHome name dir socketPath axBin configPath

def OnOrchestratorFilesOf (name dir : String) (c : Cmd) : Prop :=
  OnFilesOf name dir c ∨ c = .createDirAll (claudeDir dir) ∨ c = .removeDirAll (claudeDir dir) ∨
    c = .readDir dir ∨ c = .removeDir dir ∨
      ∃ prefix_ socketPath, c = .promptMemories prefix_ socketPath

def Starts (others : Cmd → Prop) (start : Bool) (name : String) (c : Cmd) : Prop :=
  others c ∨ c = .sessionExists name ∨ (start = true ∧ c.creates? = some name)

def Stops (others : Cmd → Prop) (name : String) (c : Cmd) : Prop :=
  others c ∨ c = .sessionExists name ∨ c = .destroySession name

variable {c : Cmd} {name dir : String}

lemma Starts.creates {others : Cmd → Prop} {start : Bool} (hc : Starts others start name c)
    (hquiet : ∀ c, others c → c.Quiet) {w : String} (hw : c.session? = some w) :
    start = true ∧ c.creates? = some w ∧ w = name := by
  rcases hc with hc | rfl | ⟨hstart, hc⟩
  · cases (hquiet c hc).symm.trans hw
  · cases hw
  · obtain ⟨dir, launch, env, rfl⟩ := Cmd.eq_of_creates? hc
    obtain rfl := Option.some.inj hw
    exact ⟨hstart, rfl, rfl⟩

lemma OnFilesOf.target?_eq_none (h : OnFilesOf name dir c) : c.target? = none := by
  rcases h with ⟨path, hpath, -⟩ | rfl | rfl | ⟨_, _, _, rfl⟩
  · exact Cmd.target?_of_file? hpath
  all_goals rfl

lemma OnFilesOf.quiet (h : OnFilesOf name dir c) : c.Quiet :=
  Cmd.quiet_of_target? h.target?_eq_none

lemma OnOrchestratorFilesOf.target?_eq_none (h : OnOrchestratorFilesOf name dir c) :
    c.target? = none := by
  rcases h with h | rfl | rfl | rfl | rfl | ⟨_, _, rfl⟩
  · exact h.target?_eq_none
  all_goals rfl

lemma OnOrchestratorFilesOf.quiet (h : OnOrchestratorFilesOf name dir c) : c.Quiet :=
  Cmd.quiet_of_target? h.target?_eq_none

lemma uses_destroyIfLive {ε : Type} (others : Cmd → Prop) (wrap : Tmux.TmuxError → ε)
    (name : String) : Uses (Stops others name) (destroyIfLive wrap name) := by
  refine uses_bind (uses_ask (.inr (.inl rfl))) fun _ => uses_whenever fun _ => ?_
  exact uses_bind (uses_ask (.inr (.inr rfl))) fun _ => uses_raise _ _

/-- What is done to files when a workspace is set up. -/
theorem uses_ensureArtifacts (host : Host) (setup : Setup) (name : String)
    (workspace : Config.Workspace) :
    Uses (OnFilesOf name workspace.dir) (ensureArtifacts host setup name workspace) := by
  refine uses_bind (uses_raise _ _) fun runtime => ?_
  refine uses_bind (uses_ask (.inr (.inl rfl))) fun _ => uses_bind (uses_raise _ _) fun _ => ?_
  refine uses_bind (uses_within ?_) fun _ => uses_bind (uses_within ?_) fun _ => ?_
  · exact (uses_writeMcpConfig ..).mono fun c hc => .inl ⟨_, hc, .inl rfl⟩
  · refine (uses_writeInstructions ..).mono fun c hc => ?_
    obtain ⟨path, hpath, hfile⟩ := hc
    exact .inl ⟨path, hpath, .inr hfile⟩
  · refine uses_whenever fun _ => uses_bind (uses_ask ?_) fun _ => uses_raise _ _
    exact .inr (.inr (.inr ⟨_, _, _, rfl⟩))

lemma uses_cleanupWorkspaceArtifacts (name dir : String) :
    Uses (OnFilesOf name dir) (cleanupWorkspaceArtifacts name dir) := by
  refine uses_whenever fun _ => ?_
  refine uses_bind (uses_within ?_) fun _ => uses_bind (uses_within ?_) fun _ => ?_
  · exact (uses_removeMcpConfig dir).mono fun c hc => .inl ⟨_, hc, .inl rfl⟩
  · refine (uses_removeInstructions dir).mono fun c hc => ?_
    obtain ⟨path, hpath, hfile⟩ := hc
    exact .inl ⟨path, hpath, .inr hfile⟩
  · exact uses_bind (uses_ask (.inr (.inr (.inl rfl)))) fun _ => uses_raise _ _

/-- What is done when a workspace is stopped and cleaned up. -/
theorem uses_cleanupWorkspaceState (name dir : String) :
    Uses (Stops (OnFilesOf name dir) name) (cleanupWorkspaceState name dir) :=
  uses_bind (uses_destroyIfLive _ _ _) fun _ =>
    (uses_cleanupWorkspaceArtifacts name dir).mono fun _ => .inl

/-- What is done when a workspace is started. -/
theorem Manager.uses_createInner (host : Host) (setup : Setup) (name : String)
    (workspace : Config.Workspace) (fresh : Bool) :
    Uses (Starts (OnFilesOf name workspace.dir) true name)
      (createInner host setup name workspace fresh) := by
  refine uses_bind (uses_raise _ _) fun runtime => ?_
  refine uses_bind ((uses_ensureArtifacts ..).mono fun _ => .inl) fun _ => ?_
  refine uses_bind (uses_ask (.inr (.inl rfl))) fun live => ?_
  split
  · exact uses_throw _
  · exact uses_bind (uses_ask (.inr (.inr ⟨rfl, rfl⟩))) fun _ => uses_raise _ _

lemma uses_writeOrchestratorPrompt (texts : Instructions.Texts) (name orchDir : String)
    (node : Config.ProjectNode) (prefix_ parentName runtime socketPath : String) :
    Uses (OnOrchestratorFilesOf name orchDir)
      (writeOrchestratorPrompt texts orchDir node prefix_ parentName runtime socketPath) := by
  have hfile : ∀ {c : Cmd} {runtime : Runtime},
      c.file? = some (Path.join orchDir runtime.instructionFile) →
        OnOrchestratorFilesOf name orchDir c :=
    fun hc => .inl (.inl ⟨_, hc, .inr ⟨_, rfl⟩⟩)
  refine uses_bind (uses_raise _ _) fun runtimeEnum => ?_
  refine uses_bind (uses_ask (.inr (.inr (.inr (.inr (.inr ⟨_, _, rfl⟩)))))) fun _ => ?_
  refine uses_bind (uses_traverse fun other _ => ?_) fun _ => ?_
  · exact uses_bind (uses_ask (hfile rfl)) fun _ => uses_raise _ _
  · exact uses_bind (uses_ask (hfile rfl)) fun _ => uses_raise _ _

lemma uses_ensureOrchestratorFiles (host : Host) (setup : Setup) (node : Config.ProjectNode)
    (parentName orchDir : String) (runtime : Runtime) :
    Uses (OnOrchestratorFilesOf (orchestratorName node.prefix_) orchDir)
      (ensureOrchestratorFiles host setup node parentName orchDir runtime) := by
  refine uses_bind (uses_ask (.inl (.inr (.inl rfl)))) fun _ => ?_
  refine uses_bind (uses_raise _ _) fun _ => ?_
  refine uses_bind (uses_ask (.inr (.inl rfl))) fun _ => uses_bind (uses_raise _ _) fun _ => ?_
  refine uses_bind (uses_within ?_) fun _ => uses_bind (uses_whenever fun _ => ?_) fun _ => ?_
  · exact (uses_writeMcpConfig ..).mono fun c hc => .inl (.inl ⟨_, hc, .inl rfl⟩)
  · refine uses_bind (uses_ask ?_) fun _ => uses_raise _ _
    exact .inl (.inr (.inr (.inr ⟨_, _, _, rfl⟩)))
  · exact uses_within (uses_writeOrchestratorPrompt ..)

/-- What is done when an orchestrator is set up and started. -/
theorem uses_ensureOrchestrator (host : Host) (setup : Setup) (node : Config.ProjectNode)
    (parentName : String) (startSession : Bool) :
    Uses (Starts (fun c => ∃ orchDir, orchestratorDirForNode host.home node = .ok orchDir ∧
        OnOrchestratorFilesOf (orchestratorName node.prefix_) orchDir c) startSession
        (orchestratorName node.prefix_))
      (ensureOrchestrator host setup node parentName startSession) := by
  refine uses_raise_bind fun orchDir hdir => uses_bind (uses_raise _ _) fun runtime => ?_
  refine uses_bind ?_ fun _ => uses_whenever fun hstart => ?_
  · exact (uses_ensureOrchestratorFiles ..).mono fun c hc => .inl ⟨orchDir, hdir, hc⟩
  · refine uses_bind (uses_ask (.inr (.inl rfl))) fun _ => uses_whenever fun _ => ?_
    refine uses_bind (uses_ask (.inr (.inr ⟨?_, rfl⟩))) fun _ => uses_raise _ _
    exact (Bool.and_eq_true_iff.mp hstart).2

lemma uses_cleanupOrchestratorArtifacts (name orchDir : String) :
    Uses (OnOrchestratorFilesOf name orchDir) (cleanupOrchestratorArtifacts orchDir) := by
  refine uses_whenever fun _ => uses_bind (uses_within ?_) fun _ => ?_
  · exact (uses_removeMcpConfig orchDir).mono fun c hc => .inl (.inl ⟨_, hc, .inl rfl⟩)
  · refine uses_bind (uses_traverse fun runtime _ => ?_) fun _ => ?_
    · refine uses_bind (uses_ask (.inl (.inl ⟨_, rfl, .inr ⟨runtime, rfl⟩⟩))) fun _ => ?_
      exact uses_raise _ _
    · refine uses_bind (uses_ask (.inr (.inr (.inl rfl)))) fun _ => ?_
      refine uses_bind (uses_raise _ _) fun _ => ?_
      refine uses_bind (uses_ask (.inr (.inr (.inr (.inl rfl))))) fun count => ?_
      cases count with
      | error e =>
        dsimp only
        split
        · exact uses_pure _
        · exact uses_throw _
      | ok count =>
        refine uses_whenever fun _ => uses_bind (uses_ask ?_) fun _ => uses_raise _ _
        exact .inr (.inr (.inr (.inr (.inl rfl))))

/-- What is done when an orchestrator is stopped and cleaned up. -/
theorem uses_cleanupOrchestratorState (name orchDir : String) :
    Uses (Stops (OnOrchestratorFilesOf name orchDir) name)
      (cleanupOrchestratorState name orchDir) := by
  refine uses_bind (uses_destroyIfLive _ _ _) fun _ => uses_bind ?_ fun _ => ?_
  · exact (uses_cleanupOrchestratorArtifacts name orchDir).mono fun _ => .inl
  · refine uses_bind (uses_ask (.inl (.inl ?_))) fun _ => uses_raise _ _
    exact .inr (.inr (.inl rfl))

/-! ## The sessions afterwards -/

section Live

variable {σ : Type} {exec : Exec σ} {live : σ → BTreeMap String Flags} {s t : σ} {l : List Cmd}
  {ε : Type} {name : String}

lemma Agrees.live_of_quiet (hexec : Agrees exec live) {α : Type} {p : Action ε α} {r : Except ε α}
    (hp : Uses Cmd.Quiet p) (h : Runs exec p s r t l) : live t = live s :=
  hp.invariant (I := fun u => live u = live s)
    (fun _ u hc hu => (hexec.quiet hc u).trans hu) h rfl

lemma Agrees.runs_sessionExists (hexec : Agrees exec live) {r : Except ε Bool}
    (h : Runs exec (ask (Cmd.sessionExists name)) s r t l) :
    r = .ok (live s)[name]?.isSome ∧ live t = live s ∧ l = [.sessionExists name] := by
  obtain ⟨rfl, rfl, rfl⟩ := runs_ask.mp h
  rw [hexec.sessionExists]
  exact ⟨rfl, hexec.quiet (c := .sessionExists name) rfl s, rfl⟩

lemma live_of_destroyIfLive (hexec : Consistent exec live) {wrap : Tmux.TmuxError → ε}
    (h : Runs exec (destroyIfLive wrap name) s (.ok ()) t l) :
    live t = (live s).erase name ∧ ((live s)[name]?.isSome → Cmd.destroySession name ∈ l) := by
  obtain ⟨b, s', l₁, l₂, hask, hrest, rfl⟩ := runs_bind_ok.mp h
  obtain ⟨hb, hlive, rfl⟩ := hexec.runs_sessionExists hask
  obtain rfl := Except.ok.inj hb
  rcases runs_whenever.mp hrest with ⟨hsome, hstop⟩ | ⟨hnone, -, rfl, rfl⟩
  · obtain ⟨destroyed, u, l₃, l₄, hdestroy, hraise, rfl⟩ := runs_bind_ok.mp hstop
    obtain ⟨hd, rfl, rfl⟩ := runs_ask.mp hdestroy
    obtain ⟨hok, rfl, rfl⟩ := runs_raise_ok.mp hraise
    refine ⟨BTreeMap.ext_get? fun w => ?_, fun _ => by simp⟩
    rw [BTreeMap.get?_erase]
    split
    · subst w
      exact hexec.destroyed name s' ((Except.ok.inj hd) ▸ hok)
    · rw [hexec.elsewhere _ _ _ (by simpa [Cmd.session?] using Ne.symm ‹_›), hlive]
  · have hname : (live s)[name]? = none := by
      rwa [Option.isSome_eq_false_iff, Option.isNone_iff_eq_none] at hnone
    refine ⟨BTreeMap.ext_get? fun w => ?_, fun hsome => by simp [hname] at hsome⟩
    rw [BTreeMap.get?_erase, hlive]
    split
    · subst w
      exact hname
    · rfl

/-- The sessions after a workspace was cleaned up. -/
theorem live_of_cleanupWorkspaceState (hexec : Consistent exec live) {dir : String}
    (h : Runs exec (cleanupWorkspaceState name dir) s (.ok ()) t l) :
    live t = (live s).erase name ∧ ((live s)[name]?.isSome → Cmd.destroySession name ∈ l) := by
  obtain ⟨_, u, l₁, l₂, hdestroy, hfiles, rfl⟩ := runs_bind_ok.mp h
  obtain ⟨hlive, hmem⟩ := live_of_destroyIfLive hexec hdestroy
  have hquiet := hexec.live_of_quiet
    ((uses_cleanupWorkspaceArtifacts name dir).mono fun _ => OnFilesOf.quiet) hfiles
  exact ⟨hquiet.trans hlive, fun hsome => List.mem_append_left _ (hmem hsome)⟩

/-- The sessions after an orchestrator was cleaned up. -/
theorem live_of_cleanupOrchestratorState (hexec : Consistent exec live) {orchDir : String}
    (h : Runs exec (cleanupOrchestratorState name orchDir) s (.ok ()) t l) :
    live t = (live s).erase name ∧ ((live s)[name]?.isSome → Cmd.destroySession name ∈ l) := by
  obtain ⟨_, u, l₁, l₂, hdestroy, hrest, rfl⟩ := runs_bind_ok.mp h
  obtain ⟨hlive, hmem⟩ := live_of_destroyIfLive hexec hdestroy
  have hfiles : Uses Cmd.Quiet (do
      cleanupOrchestratorArtifacts orchDir
      let removed ← ask (Cmd.removeCodexHome name orchDir)
      raise OrchestratorError.codexHome removed) := by
    refine uses_bind ?_ fun _ => uses_bind (uses_ask rfl) fun _ => uses_raise _ _
    exact (uses_cleanupOrchestratorArtifacts name orchDir).mono fun _ =>
      OnOrchestratorFilesOf.quiet
  exact ⟨(hexec.live_of_quiet hfiles hrest).trans hlive,
    fun hsome => List.mem_append_left _ (hmem hsome)⟩

structure Started (before after : BTreeMap String Flags) (name : String) : Prop where
  elsewhere : ∀ w, w ≠ name → after[w]? = before[w]?
  isSome : after[name]?.isSome

lemma started_of_createSession (hexec : Consistent exec live) {wrap : Tmux.TmuxError → ε}
    {dir : String} {launch : Launch} {env : BTreeMap String String} (h : Runs exec (do
      let created ← ask (Cmd.createSession name dir launch env)
      raise wrap created) s (.ok ()) t l) :
    Started (live s) (live t) name ∧ ∃ c ∈ l, c.creates? = some name := by
  obtain ⟨created, u, l₁, l₂, hcreate, hraise, rfl⟩ := runs_bind_ok.mp h
  obtain ⟨hc, rfl, rfl⟩ := runs_ask.mp hcreate
  obtain ⟨hok, rfl, rfl⟩ := runs_raise_ok.mp hraise
  refine ⟨⟨fun w hw => ?_, ?_⟩, _, List.mem_append_left _ (List.mem_singleton_self _), rfl⟩
  · exact hexec.elsewhere _ _ _ (by simpa [Cmd.session?] using Ne.symm hw)
  · exact hexec.created name dir launch env s ((Except.ok.inj hc) ▸ hok)

/-- The sessions after a workspace was started. -/
theorem live_of_createInner (hexec : Consistent exec live) {host : Host} {setup : Setup}
    {workspace : Config.Workspace} {fresh : Bool}
    (h : Runs exec (Manager.createInner host setup name workspace fresh) s (.ok ()) t l) :
    (live s)[name]? = none ∧ Started (live s) (live t) name ∧
      ∃ c ∈ l, c.creates? = some name := by
  obtain ⟨runtime, s₁, l₁, l₂, hruntime, h₁, rfl⟩ := runs_bind_ok.mp h
  obtain ⟨-, rfl, rfl⟩ := runs_raise_ok.mp hruntime
  obtain ⟨_, s₂, l₃, l₄, hfiles, h₂, rfl⟩ := runs_bind_ok.mp h₁
  have hquiet := hexec.live_of_quiet
    ((uses_ensureArtifacts host setup name workspace).mono fun _ => OnFilesOf.quiet) hfiles
  obtain ⟨b, s₃, l₅, l₆, hask, h₃, rfl⟩ := runs_bind_ok.mp h₂
  obtain ⟨hb, hlive, rfl⟩ := hexec.runs_sessionExists hask
  obtain rfl := Except.ok.inj hb
  split at h₃
  · obtain ⟨herror, -, -⟩ := runs_throw.mp h₃
    cases herror
  · rename_i hnone
    obtain ⟨hstarted, c, hmem, hc⟩ := started_of_createSession hexec h₃
    rw [hlive, hquiet] at hstarted
    rw [hquiet] at hnone
    exact ⟨Option.not_isSome_iff_eq_none.mp hnone, hstarted, c, by simp [hmem], hc⟩

/-- The sessions after an orchestrator was set up: one that should run is live, and it was
started unless it was. -/
theorem live_of_ensureOrchestrator (hexec : Consistent exec live) {host : Host} {setup : Setup}
    {node : Config.ProjectNode} {parentName : String} {startSession : Bool}
    (hname : orchestratorName node.prefix_ = name)
    (h : Runs exec (ensureOrchestrator host setup node parentName startSession) s (.ok ()) t l) :
    if (node.prefix_ ≠ "" && startSession) = true ∧ (live s)[name]? = none then
      Started (live s) (live t) name ∧ ∃ c ∈ l, c.creates? = some name
    else live t = live s ∧ ∀ c ∈ l, c.Quiet := by
  subst hname
  obtain ⟨orchDir, s₁, l₁, l₂, hdir, h₁, rfl⟩ := runs_bind_ok.mp h
  obtain ⟨-, rfl, rfl⟩ := runs_raise_ok.mp hdir
  obtain ⟨runtime, s₂, l₃, l₄, hruntime, h₂, rfl⟩ := runs_bind_ok.mp h₁
  obtain ⟨-, rfl, rfl⟩ := runs_raise_ok.mp hruntime
  obtain ⟨_, s₃, l₅, l₆, hfiles, h₃, rfl⟩ := runs_bind_ok.mp h₂
  have huses := (uses_ensureOrchestratorFiles host setup node parentName orchDir runtime).mono
    fun _ => OnOrchestratorFilesOf.quiet
  have hquiet := hexec.live_of_quiet huses hfiles
  have hcommands : ∀ c ∈ l₅, c.Quiet := huses.runs hfiles
  rcases runs_whenever.mp h₃ with ⟨hstart, h₄⟩ | ⟨hstart, -, rfl, rfl⟩
  · obtain ⟨b, s₄, l₇, l₈, hask, h₅, rfl⟩ := runs_bind_ok.mp h₄
    obtain ⟨hb, hlive, rfl⟩ := hexec.runs_sessionExists hask
    obtain rfl := Except.ok.inj hb
    rcases runs_whenever.mp h₅ with ⟨hnone, h₆⟩ | ⟨hsome, -, rfl, rfl⟩
    · obtain ⟨hstarted, c, hmem, hc⟩ := started_of_createSession hexec h₆
      rw [hlive, hquiet] at hstarted
      rw [hquiet] at hnone
      rw [Bool.not_eq_true', Option.isSome_eq_false_iff, Option.isNone_iff_eq_none] at hnone
      rw [if_pos ⟨hstart, hnone⟩]
      exact ⟨hstarted, c, by simp [hmem], hc⟩
    · rw [hquiet] at hsome
      rw [if_neg fun hboth => by simp [hboth.2] at hsome]
      refine ⟨hlive.trans hquiet, fun c hc => ?_⟩
      simp only [List.nil_append, List.append_nil, List.mem_append, List.mem_singleton] at hc
      rcases hc with hc | rfl
      · exact hcommands c hc
      · rfl
  · rw [if_neg fun hboth => Bool.false_ne_true (hstart.symm.trans hboth.1)]
    exact ⟨hquiet, by simpa using hcommands⟩

end Live

end Ax.Workspaces
