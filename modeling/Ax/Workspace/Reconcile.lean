import Ax.Workspace.DesiredState

/-!
# Reconciling agents with the configuration

A pass compares what is desired with what was recorded by the last pass.  Workspaces and
orchestrators that match are only refreshed, others are stopped, cleaned up and set up again,
and those that are no longer desired are removed; a session that is attached or not idle blocks
what would disrupt it.  At the end the new records are saved.

Main results:

- Theorem `runs_loadSessionSnapshots`: what a pass knows about sessions is what is live at its
  start.
- Definition `Reconciler.reconcileDesiredState`: a pass.
-/

namespace Ax.Workspaces

open Prog (ask raise within whenever)
open Fallible

/-! ## Records -/

structure WorkspaceState where
  name : String
  dir : String
  runtime : String
  agentProvider : String
  agentProviderHash : String
  agent : String
  shell : String
  env : BTreeMap String String
  instructionsHash : String
deriving DecidableEq

structure OrchestratorState where
  name : String
  artifactDir : String
  runtime : String
  parentName : String
  promptHash : String
  managedSession : Bool
  root : Bool
deriving DecidableEq

structure RuntimeState where
  version : Int
  socketPath : String
  configPath : String
  workspaces : BTreeMap String WorkspaceState
  orchestrators : BTreeMap String OrchestratorState
deriving DecidableEq

def WorkspaceState.codec : Codec WorkspaceState :=
  (Record.start WorkspaceState.mk
    |>.field (.required "name" .string) WorkspaceState.name
    |>.field (.required "dir" .string) WorkspaceState.dir
    |>.field (.required "runtime" .string) WorkspaceState.runtime
    |>.field (.skipped "agent_provider" .string "") WorkspaceState.agentProvider
    |>.field (.skipped "agent_provider_hash" .string "") WorkspaceState.agentProviderHash
    |>.field (.skipped "agent" .string "") WorkspaceState.agent
    |>.field (.skipped "shell" .string "") WorkspaceState.shell
    |>.field (.skipped "env" (.mapping .string) ∅) WorkspaceState.env
    |>.field (.skipped "instructions_hash" .string "") WorkspaceState.instructionsHash).codec
      (fun _ => rfl) (by simp)

def OrchestratorState.codec : Codec OrchestratorState :=
  (Record.start OrchestratorState.mk
    |>.field (.required "name" .string) OrchestratorState.name
    |>.field (.required "artifact_dir" .string) OrchestratorState.artifactDir
    |>.field (.required "runtime" .string) OrchestratorState.runtime
    |>.field (.skipped "parent_name" .string "") OrchestratorState.parentName
    |>.field (.skipped "prompt_hash" .string "") OrchestratorState.promptHash
    |>.field (.skipped "managed_session" .bool false) OrchestratorState.managedSession
    |>.field (.skipped "root" .bool false) OrchestratorState.root).codec
      (fun _ => rfl) (by simp)

namespace RuntimeState

/-- `RUNTIME_STATE_FILE`. -/
def file : String :=
  ".runtime-state.json"

/-- `RuntimeState::new`. -/
def new : RuntimeState where
  version := 1
  socketPath := ""
  configPath := ""
  workspaces := ∅
  orchestrators := ∅

def codec : Codec RuntimeState :=
  (Record.start RuntimeState.mk
    |>.field (.required "version" .int) RuntimeState.version
    |>.field (.skipped "socket_path" .string "") RuntimeState.socketPath
    |>.field (.skipped "config_path" .string "") RuntimeState.configPath
    |>.field (.skipped "workspaces" (.mapping WorkspaceState.codec) ∅) RuntimeState.workspaces
    |>.field (.skipped "orchestrators" (.mapping OrchestratorState.codec) ∅)
      RuntimeState.orchestrators).codec (fun _ => rfl) (by simp)

end RuntimeState

/-- `desired_workspace_state`. -/
def desiredWorkspaceState (entry : DesiredWorkspace) (desired : DesiredState) :
    WorkspaceState where
  name := entry.name
  dir := cleanPathStr entry.workspace.dir
  runtime := cleanRuntime entry.workspace.runtime
  agentProvider := Text.trim entry.workspace.agentProvider
  agentProviderHash := desired.agentProviderHashes[entry.name]?.getD ""
  agent := Text.trim entry.workspace.agent
  shell := Text.trim entry.workspace.shell
  env := entry.workspace.env
  instructionsHash := hashText (Text.trim entry.workspace.instructions)

/-- `desired_orchestrator_state`. -/
def desiredOrchestratorState (entry : DesiredOrchestrator) : OrchestratorState where
  name := entry.name
  artifactDir := cleanPathStr entry.artifactDir
  runtime := entry.runtime
  parentName := entry.parentName
  promptHash := entry.promptHash
  managedSession := entry.managedSession
  root := entry.root

/-- `workspace_state_matches`. -/
def workspaceStateMatches (a b : WorkspaceState) : Bool :=
  a.name = b.name && a.dir = b.dir && a.runtime = b.runtime &&
    a.agentProvider = b.agentProvider && a.agentProviderHash = b.agentProviderHash &&
    a.agent = b.agent && a.shell = b.shell && a.instructionsHash = b.instructionsHash &&
    a.env = b.env

/-- `orchestrator_state_matches`. -/
def orchestratorStateMatches (a b : OrchestratorState) : Bool :=
  a.name = b.name && a.artifactDir = b.artifactDir && a.runtime = b.runtime &&
    a.parentName = b.parentName && a.promptHash = b.promptHash &&
    a.managedSession = b.managedSession && a.root = b.root

lemma workspaceStateMatches_iff {a b : WorkspaceState} :
    workspaceStateMatches a b = true ↔ a = b := by
  cases a
  cases b
  simp only [workspaceStateMatches, Bool.and_eq_true, decide_eq_true_eq, WorkspaceState.mk.injEq]
  tauto

lemma orchestratorStateMatches_iff {a b : OrchestratorState} :
    orchestratorStateMatches a b = true ↔ a = b := by
  cases a
  cases b
  simp only [orchestratorStateMatches, Bool.and_eq_true, decide_eq_true_eq,
    OrchestratorState.mk.injEq]
  tauto

/-! ## Reports -/

/-- What an action is about. -/
inductive TargetKind
  | workspace
  | orchestrator
deriving DecidableEq, Repr

/-- What can be done, or be blocked. -/
inductive Change
  | create
  | restart
  | remove
deriving DecidableEq, Repr

inductive Operation
  | done (change : Change)
  | blocked (change : Change)
  | manualRestartRequired
  | createArtifacts
deriving DecidableEq, Repr

structure ReconcileAction where
  kind : TargetKind
  name : String
  operation : Operation
  details : String
deriving DecidableEq, Repr

structure ReconcileReport where
  actions : List ReconcileAction := []
  rootManualRestartRequired : Bool := false
  rootManualRestartReasons : List String := []
deriving DecidableEq, Repr

/-- What a pass puts into its report. -/
inductive Note
  | action (action : ReconcileAction)
  | rootManualRestart (reason : String)
deriving DecidableEq, Repr

namespace ReconcileReport

/-- `ReconcileReport::require_root_manual_restart`. -/
def requireRootManualRestart (report : ReconcileReport) (reason : String) : ReconcileReport :=
  let trimmed := Text.trim reason
  { report with
    rootManualRestartRequired := true
    rootManualRestartReasons :=
      if trimmed = "" ∨ trimmed ∈ report.rootManualRestartReasons then
        report.rootManualRestartReasons
      else report.rootManualRestartReasons ++ [trimmed] }

/-- `ReconcileReport::add_action`, or the note that a restart by hand is required. -/
def add (report : ReconcileReport) : Note → ReconcileReport
  | .action action => { report with actions := report.actions ++ [action] }
  | .rootManualRestart reason => report.requireRootManualRestart reason

def ofNotes (notes : List Note) : ReconcileReport :=
  notes.foldl add {}

lemma actions_foldl_add (report : ReconcileReport) (notes : List Note) :
    (notes.foldl add report).actions = report.actions ++ notes.filterMap fun
      | .action action => some action
      | .rootManualRestart _ => none := by
  induction notes generalizing report with
  | nil => simp
  | cons note notes ih =>
    rw [List.foldl_cons, ih]
    cases note <;> simp [add, requireRootManualRestart]

lemma mem_actions_ofNotes {notes : List Note} {action : ReconcileAction} :
    action ∈ (ofNotes notes).actions ↔ Note.action action ∈ notes := by
  rw [ofNotes, actions_foldl_add, List.nil_append, List.mem_filterMap]
  constructor
  · rintro ⟨note, hnote, h⟩
    cases note with
    | action other =>
      obtain rfl := Option.some.inj h
      exact hnote
    | rootManualRestart reason => cases h
  · intro h
    exact ⟨_, h, rfl⟩

end ReconcileReport

/-! ## Sessions at the start of a pass -/

inductive ReconcileError
  | readState (path : String) (source : Config.IoError)
  | parseState (path source : String)
  | writeState (path : String) (source : Config.IoError)
  | workspace (source : WorkspaceError)
  | orchestrator (source : OrchestratorError)
  | tmux (source : Tmux.TmuxError)
deriving DecidableEq, Repr

structure ReconcileOptions where
  daemonRunning : Bool
  allowDisruptiveChanges : Bool
deriving DecidableEq, Repr

structure SessionSnapshot where
  exists_ : Bool := false
  attached : Bool := false
  idle : Bool := false
deriving DecidableEq, Repr

/-- `disruption_block_reason`. -/
def disruptionBlockReason (snapshot : SessionSnapshot) : Option String :=
  if snapshot.attached then some "tmux session is attached"
  else if !snapshot.idle then some "tmux session is not idle"
  else none

def blockReason (opts : ReconcileOptions) (session : SessionSnapshot) : Option String :=
  if session.exists_ && !opts.allowDisruptiveChanges then
    some "reconcile mode forbids disrupting an existing session"
  else if session.exists_ then disruptionBlockReason session
  else none

/-- `desired_session_names`. -/
def desiredSessionNames (previous : RuntimeState) (desired : DesiredState) : List String :=
  let names := previous.workspaces.keys ++ previous.orchestrators.keys ++
    desired.workspaces.keys ++ desired.orchestrators.keys
  (names.foldl (fun set name => set.insert name ()) (∅ : BTreeMap String Unit)).keys

lemma mem_desiredSessionNames {previous : RuntimeState} {desired : DesiredState} {name : String} :
    name ∈ desiredSessionNames previous desired ↔
      name ∈ previous.workspaces ∨ name ∈ previous.orchestrators ∨
        name ∈ desired.workspaces ∨ name ∈ desired.orchestrators := by
  have hset : ∀ (names : List String) (set : BTreeMap String Unit),
      name ∈ (names.foldl (fun set name => set.insert name ()) set).keys ↔
        name ∈ names ∨ name ∈ set := by
    intro names
    induction names with
    | nil => simp
    | cons first names ih =>
      intro set
      rw [List.foldl_cons, ih, Std.ExtTreeMap.mem_insert, Std.compare_eq_iff_eq, List.mem_cons]
      tauto
  rw [desiredSessionNames, hset]
  simp only [List.mem_append, Std.ExtTreeMap.mem_keys]
  simp [or_assoc]

lemma nodup_desiredSessionNames (previous : RuntimeState) (desired : DesiredState) :
    (desiredSessionNames previous desired).Nodup :=
  Std.ExtTreeMap.nodup_keys

def snapshotOf (listed : BTreeMap String Tmux.SessionInfo) (name : String) :
    Action ReconcileError (Option SessionSnapshot) :=
  match listed[name]? with
  | none => pure none
  | some info =>
    if info.attached then pure (some ⟨true, true, false⟩)
    else do
      let idle ← ask (Cmd.isIdle name)
      return some ⟨true, false, idle⟩

/-- `load_session_snapshots`. -/
def loadSessionSnapshots (names : List String) :
    Action ReconcileError (BTreeMap String SessionSnapshot) :=
  if names = [] then pure ∅
  else do
    let answer ← ask Cmd.listSessions
    let listed ← raise .tmux answer
    let byName := listed.foldl (fun out info => out.insert info.workspace info)
      (∅ : BTreeMap String Tmux.SessionInfo)
    let snapshots ← Fallible.traverse (snapshotOf byName) names
    return BTreeMap.collect Prod.fst Prod.snd snapshots

def Flags.snapshot (flags : Flags) : SessionSnapshot :=
  ⟨true, flags.attached, !flags.attached && flags.idle⟩

lemma uses_loadSessionSnapshots (names : List String) :
    Uses Cmd.Quiet (loadSessionSnapshots names) := by
  unfold loadSessionSnapshots
  split
  · exact uses_pure _
  · refine uses_bind (uses_ask rfl) fun _ => uses_bind (uses_raise _ _) fun listed => ?_
    refine uses_bind (uses_traverse fun name _ => ?_) fun _ => uses_pure _
    unfold snapshotOf
    split
    · exact uses_pure _
    · split
      · exact uses_pure _
      · exact uses_bind (uses_ask rfl) fun _ => uses_pure _

section Snapshots

variable {σ : Type} {exec : Exec σ} {live : σ → BTreeMap String Flags} {s t : σ} {l : List Cmd}

lemma get?_byName (hexec : Agrees exec live) {infos : List Tmux.SessionInfo}
    (hlist : (exec .listSessions s).1 = .ok infos) (name : String) :
    (infos.foldl (fun out info => out.insert info.workspace info)
      (∅ : BTreeMap String Tmux.SessionInfo))[name]?.map Tmux.SessionInfo.attached =
      (live s)[name]?.map Flags.attached := by
  have hperm := hexec.listSessions s infos hlist
  have hkeys : ((infos.map fun info => (info.workspace, info)).map Prod.fst).Nodup := by
    have hnodup : ((infos.map fun i => (i.workspace, i.attached)).map Prod.fst).Nodup := by
      rw [(hperm.map Prod.fst).nodup_iff, List.map_map]
      exact BTreeMap.nodup_map_fst_toList (live s)
    simpa [Function.comp_def] using hnodup
  have hfold : infos.foldl (fun out info => out.insert info.workspace info)
      (∅ : BTreeMap String Tmux.SessionInfo) =
      (infos.map fun info => (info.workspace, info)).foldl
        (fun m entry => m.insert entry.1 entry.2) ∅ := by
    rw [List.foldl_map]
  rw [hfold]
  refine Option.ext fun attached => ?_
  simp only [Option.map_eq_some_iff, BTreeMap.get?_ofEntries hkeys]
  rw [← hexec.mem_of_listSessions hlist]
  constructor
  · rintro ⟨info, hmem, rfl⟩
    obtain ⟨i, hi, heq⟩ := List.mem_map.mp hmem
    obtain ⟨rfl, rfl⟩ := Prod.mk.inj heq
    exact ⟨i, hi, rfl, rfl⟩
  · rintro ⟨i, hi, rfl, rfl⟩
    exact ⟨i, List.mem_map_of_mem hi, rfl⟩

lemma runs_snapshotOf (hexec : Agrees exec live) {listed : BTreeMap String Tmux.SessionInfo}
    {name : String} {snapshot : Option SessionSnapshot}
    (hlisted : listed[name]?.map Tmux.SessionInfo.attached = (live s)[name]?.map Flags.attached)
    (h : Runs exec (snapshotOf listed name) s (.ok snapshot) t l) :
    live t = live s ∧ snapshot = (live s)[name]?.map Flags.snapshot := by
  unfold snapshotOf at h
  cases hget : listed[name]? with
  | none =>
    rw [hget] at h hlisted
    obtain ⟨rfl, rfl, -⟩ := runs_pure_ok.mp h
    have hnone : (live t)[name]? = none := Option.map_eq_none_iff.mp hlisted.symm
    rw [hnone]
    exact ⟨rfl, rfl⟩
  | some info =>
    rw [hget] at h hlisted
    obtain ⟨flags, hflags, hattached⟩ := Option.map_eq_some_iff.mp hlisted.symm
    rw [hflags, Option.map_some, Flags.snapshot, hattached]
    dsimp only at h
    split at h
    · rename_i hbusy
      obtain ⟨rfl, rfl, -⟩ := runs_pure_ok.mp h
      simp [hbusy]
    · rename_i hfree
      obtain ⟨idle, u, l₁, l₂, hidle, hpure, rfl⟩ := runs_bind_ok.mp h
      obtain ⟨hanswer, rfl, rfl⟩ := runs_ask.mp hidle
      obtain ⟨rfl, rfl, -⟩ := runs_pure_ok.mp hpure
      obtain rfl := Except.ok.inj hanswer
      rw [hexec.isIdle name s flags hflags]
      refine ⟨hexec.quiet (c := .isIdle name) rfl s, ?_⟩
      simp [hfree]

/-- What a pass knows about sessions is what is live at its start. -/
theorem runs_loadSessionSnapshots (hexec : Agrees exec live) {names : List String}
    (hnodup : names.Nodup) {sessions : BTreeMap String SessionSnapshot}
    (h : Runs exec (loadSessionSnapshots names) s (.ok sessions) t l) :
    live t = live s ∧
      ∀ name ∈ names, sessions[name]? = (live s)[name]?.map Flags.snapshot := by
  unfold loadSessionSnapshots at h
  split at h
  · rename_i hnil
    obtain ⟨-, rfl, -⟩ := runs_pure.mp h
    exact ⟨rfl, by simp [hnil]⟩
  · obtain ⟨answer, s₁, l₁, l₂, hask, h₁, rfl⟩ := runs_bind_ok.mp h
    obtain ⟨hanswer, rfl, rfl⟩ := runs_ask.mp hask
    obtain ⟨listed, s₂, l₃, l₄, hraise, h₂, rfl⟩ := runs_bind_ok.mp h₁
    obtain ⟨hlisted, rfl, rfl⟩ := runs_raise_ok.mp hraise
    obtain ⟨entries, hloop, rfl⟩ := runs_bind_pure.mp h₂
    obtain rfl := Except.ok.inj hanswer
    have hstart : live (exec .listSessions s).2 = live s :=
      hexec.quiet (c := .listSessions) rfl s
    obtain ⟨hlive, hentries⟩ := forall_of_traverse (I := fun u => live u = live s)
      (P := fun name snapshot => snapshot = (live s)[name]?.map Flags.snapshot)
      (fun name _ u snapshot v l hu hrun => by
        obtain ⟨hv, hsnapshot⟩ := runs_snapshotOf hexec
          (by rw [hu]; exact get?_byName hexec hlisted name) hrun
        rw [hu] at hv hsnapshot
        exact ⟨hv, hsnapshot⟩) hloop hstart
    refine ⟨hlive, fun name hname => ?_⟩
    have hkeys := map_fst_of_traverse hloop
    obtain ⟨entry, hentry, rfl⟩ := List.mem_map.mp (hkeys ▸ hname)
    rw [BTreeMap.get?_collect (hkeys ▸ hnodup) hentry, hentries entry hentry]

end Snapshots

/-! ## The state file -/

/-- `reconcile_state_path`. -/
def reconcileStatePath (configPath : String) : String :=
  let base := (Path.parent configPath).getD "."
  Path.join (if base = "" then "." else base) RuntimeState.file

def RuntimeState.ofRead (path : String) :
    Except Config.IoError (Except String Json) → Except ReconcileError RuntimeState
  | .ok document => (document >>= codec.decode).mapError (.parseState path)
  | .error e => if e.kind = .notFound then .ok new else .error (.readState path e)

/-- `load_runtime_state`. -/
def loadRuntimeState (path : String) : Action ReconcileError RuntimeState := do
  let document ← ask (Cmd.readJson path)
  raise id (RuntimeState.ofRead path document)

def makeStateDir (path : String) : Action ReconcileError Unit :=
  match Path.parent path with
  | none => pure ()
  | some parent => do
      let made ← ask (Cmd.createDirAll parent)
      raise (.writeState path) made

/-- `save_runtime_state`. -/
def saveRuntimeState (path : String) (state : RuntimeState) : Action ReconcileError Unit := do
  makeStateDir path
  let written ← ask (Cmd.writeJson path (RuntimeState.codec.encode state))
  raise (.writeState path) written

lemma uses_loadRuntimeState (path : String) : Uses Cmd.Quiet (loadRuntimeState path) :=
  uses_bind (uses_ask rfl) fun _ => uses_raise _ _

lemma uses_saveRuntimeState (path : String) (state : RuntimeState) :
    Uses Cmd.Quiet (saveRuntimeState path state) := by
  refine uses_bind ?_ fun _ => uses_bind (uses_ask rfl) fun _ => uses_raise _ _
  unfold makeStateDir
  split
  · exact uses_pure _
  · exact uses_bind (uses_ask rfl) fun _ => uses_raise _ _

/-! ## A pass -/

structure Reconciler where
  socketPath : String
  configPath : String
  axBin : String
deriving DecidableEq, Repr

def Reconciler.setup (r : Reconciler) : Setup where
  socketPath := r.socketPath
  configPath := some r.configPath
  axBin := r.axBin

structure Pass where
  host : Host
  setup : Setup
  desired : DesiredState
  opts : ReconcileOptions
  previous : RuntimeState
  sessions : BTreeMap String SessionSnapshot

structure Visit (ρ : Type) where
  notes : List Note
  record : Option ρ

namespace Pass

def socketPath (pass : Pass) : String :=
  cleanPathStr pass.desired.socketPath

def configPath (pass : Pass) : String :=
  cleanPathStr pass.desired.configPath

def globalChanged (pass : Pass) : Bool :=
  pass.previous.socketPath ≠ pass.socketPath || pass.previous.configPath ≠ pass.configPath

def session (pass : Pass) (name : String) : SessionSnapshot :=
  pass.sessions[name]?.getD {}

def blocked (pass : Pass) (name : String) : Option String :=
  blockReason pass.opts (pass.session name)

def workspaceMatches (pass : Pass) (name : String) (record : WorkspaceState) : Bool :=
  (pass.previous.workspaces[name]?.any fun prev => workspaceStateMatches prev record) &&
    !pass.globalChanged

def orchestratorMatches (pass : Pass) (name : String) (record : OrchestratorState) : Bool :=
  (pass.previous.orchestrators[name]?.any fun prev => orchestratorStateMatches prev record) &&
    !pass.globalChanged

def changeOf {ρ : Type} (prev : Option ρ) : Change :=
  if prev.isSome then .restart else .create

def workspaceCleanupDir (pass : Pass) (name : String) (record : WorkspaceState) : String :=
  (pass.previous.workspaces[name]?.map WorkspaceState.dir).getD record.dir

def orchestratorCleanupDir (pass : Pass) (name : String) (record : OrchestratorState) : String :=
  (pass.previous.orchestrators[name]?.map OrchestratorState.artifactDir).getD record.artifactDir

/-- The visit of a desired entry: one that matches its record is refreshed, and any other one is
set up anew unless its session blocks that. -/
def visit {ρ : Type} (pass : Pass) (kind : TargetKind) (name : String) (prev : Option ρ)
    (record : ρ) (matches_ : Bool) (refresh : Action ReconcileError (List Note))
    (redo : Action ReconcileError String) : Action ReconcileError (Visit ρ) :=
  if matches_ then do
    let notes ← refresh
    return ⟨notes, some record⟩
  else
    match pass.blocked name with
    | some reason => return ⟨[.action ⟨kind, name, .blocked (changeOf prev), reason⟩], prev⟩
    | none => do
        let details ← redo
        return ⟨[.action ⟨kind, name, .done (changeOf prev), details⟩], some record⟩

def missingNotes (kind : TargetKind) (name : String) (missing : Bool) : List Note :=
  if missing then
    [.action ⟨kind, name, .done .create, "session was missing and has been started"⟩]
  else []

def redoneDetails (started : Bool) : String :=
  if started then "generated artifacts refreshed and session started"
  else "generated artifacts refreshed"

def refreshWorkspace (pass : Pass) (name : String) (entry : DesiredWorkspace) :
    Action ReconcileError (List Note) := do
  within .workspace (ensureArtifacts pass.host pass.setup name entry.workspace)
  let missing := pass.opts.daemonRunning && !(pass.session name).exists_
  whenever missing
    (within .workspace (Manager.create pass.host pass.setup name entry.workspace))
  return missingNotes .workspace name missing

def redoWorkspace (pass : Pass) (name : String) (entry : DesiredWorkspace) :
    Action ReconcileError String := do
  within .workspace (cleanupWorkspaceState name
    (pass.workspaceCleanupDir name (desiredWorkspaceState entry pass.desired)))
  within .workspace (ensureArtifacts pass.host pass.setup name entry.workspace)
  whenever pass.opts.daemonRunning
    (within .workspace (Manager.create pass.host pass.setup name entry.workspace))
  return redoneDetails pass.opts.daemonRunning

def visitWorkspace (pass : Pass) (name : String) (entry : DesiredWorkspace) :
    Action ReconcileError (Visit WorkspaceState) :=
  let record := desiredWorkspaceState entry pass.desired
  pass.visit .workspace name pass.previous.workspaces[name]? record
    (pass.workspaceMatches name record) (pass.refreshWorkspace name entry)
    (pass.redoWorkspace name entry)

def drop {ρ : Type} (pass : Pass) (kind : TargetKind) (name : String) (prev : ρ)
    (cleanup : Action ReconcileError Unit) : Action ReconcileError (Visit ρ) :=
  match pass.blocked name with
  | some reason => return ⟨[.action ⟨kind, name, .blocked .remove, reason⟩], some prev⟩
  | none => do
      cleanup
      return ⟨[.action ⟨kind, name, .done .remove, "generated artifacts cleaned up"⟩], none⟩

def dropWorkspace (pass : Pass) (name : String) (prev : WorkspaceState) :
    Action ReconcileError (Visit WorkspaceState) :=
  pass.drop .workspace name prev (within .workspace (cleanupWorkspaceState name prev.dir))

def rootNotes (name : String) (recorded : Bool) : List Note :=
  [.rootManualRestart "root orchestrator artifacts changed; manual relaunch is required",
    .action (if recorded then
        ⟨.orchestrator, name, .manualRestartRequired,
          "root foreground orchestrator is not hot-reloaded"⟩
      else ⟨.orchestrator, name, .createArtifacts, "root orchestrator artifacts created"⟩)]

def ensureEntry (pass : Pass) (entry : DesiredOrchestrator) (start : Bool) :
    Action ReconcileError Unit :=
  within .orchestrator (ensureOrchestrator pass.host pass.setup entry.node entry.parentName start)

def refreshOrchestrator (pass : Pass) (name : String) (entry : DesiredOrchestrator) :
    Action ReconcileError (List Note) := do
  pass.ensureEntry entry pass.opts.daemonRunning
  return missingNotes .orchestrator name
    (pass.opts.daemonRunning && !(pass.session name).exists_ && entry.managedSession)

def redoOrchestrator (pass : Pass) (name : String) (entry : DesiredOrchestrator) :
    Action ReconcileError String := do
  within .orchestrator (cleanupOrchestratorState name
    (pass.orchestratorCleanupDir name (desiredOrchestratorState entry)))
  pass.ensureEntry entry pass.opts.daemonRunning
  return redoneDetails (pass.opts.daemonRunning && entry.managedSession)

def visitOrchestrator (pass : Pass) (name : String) (entry : DesiredOrchestrator) :
    Action ReconcileError (Visit OrchestratorState) := do
  let record := desiredOrchestratorState entry
  let prev := pass.previous.orchestrators[name]?
  if entry.root then do
    pass.ensureEntry entry false
    return ⟨if pass.orchestratorMatches name record then [] else rootNotes name prev.isSome,
      some record⟩
  else
    pass.visit .orchestrator name prev record (pass.orchestratorMatches name record)
      (pass.refreshOrchestrator name entry) (pass.redoOrchestrator name entry)

def dropOrchestrator (pass : Pass) (name : String) (prev : OrchestratorState) :
    Action ReconcileError (Visit OrchestratorState) :=
  pass.drop .orchestrator name prev
    (within .orchestrator (cleanupOrchestratorState name prev.artifactDir))

def droppedWorkspaces (pass : Pass) : List (String × WorkspaceState) :=
  pass.previous.workspaces.toList.filter fun entry => !pass.desired.workspaces.contains entry.1

def droppedOrchestrators (pass : Pass) : List (String × OrchestratorState) :=
  pass.previous.orchestrators.toList.filter fun entry =>
    !pass.desired.orchestrators.contains entry.1

structure Visits where
  workspaces : List (String × Visit WorkspaceState)
  orchestrators : List (String × Visit OrchestratorState)

def named {α ρ : Type} (results : List ((String × α) × Visit ρ)) : List (String × Visit ρ) :=
  results.map fun result => (result.1.1, result.2)

def Visits.report (visits : Visits) : ReconcileReport :=
  .ofNotes ((visits.workspaces.flatMap fun visit => visit.2.notes) ++
    visits.orchestrators.flatMap fun visit => visit.2.notes)

def next (pass : Pass) (visits : Visits) : RuntimeState where
  version := RuntimeState.new.version
  socketPath := pass.socketPath
  configPath := pass.configPath
  workspaces := BTreeMap.collect Prod.fst (fun visit => visit.2.record) visits.workspaces
  orchestrators := BTreeMap.collect Prod.fst (fun visit => visit.2.record) visits.orchestrators

def visitAll (pass : Pass) : Action ReconcileError Visits := do
  let workspaces ← Fallible.traverse (fun entry => pass.visitWorkspace entry.1 entry.2)
    pass.desired.workspaces.toList
  let removed ← Fallible.traverse (fun entry => pass.dropWorkspace entry.1 entry.2)
    pass.droppedWorkspaces
  let orchestrators ← Fallible.traverse (fun entry => pass.visitOrchestrator entry.1 entry.2)
    pass.desired.orchestrators.toList
  let removedOrchestrators ← Fallible.traverse (fun entry => pass.dropOrchestrator entry.1 entry.2)
    pass.droppedOrchestrators
  return ⟨named workspaces ++ named removed, named orchestrators ++ named removedOrchestrators⟩

end Pass

def Reconciler.reconcileDesiredState (r : Reconciler) (host : Host) (desired : DesiredState)
    (opts : ReconcileOptions) : Action ReconcileError ReconcileReport := do
  let statePath := reconcileStatePath r.configPath
  let previous ← loadRuntimeState statePath
  let sessions ← loadSessionSnapshots (desiredSessionNames previous desired)
  let pass : Pass := ⟨host, r.setup, desired, opts, previous, sessions⟩
  let visits ← pass.visitAll
  saveRuntimeState statePath (pass.next visits)
  return visits.report

end Ax.Workspaces
