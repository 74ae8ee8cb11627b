import Ax.Workspace.Reconcile

/-!
# The parts of a pass

What the visits of a pass can do to sessions and files, and how they can end.  Later results
about passes are case analyses of these.

Main results:

- Theorems `Pass.runs_visit` and `Pass.runs_drop`: how a visit can end.
- Theorem `runs_reconcileDesiredState`: the parts of a pass that ends without an error.
-/

namespace Ax.Workspaces

open Prog (within whenever)
open Fallible

/-! ## What a pass can do -/

namespace Pass

def CleansUp (pass : Pass) (others : Cmd → Prop) (name : String) (c : Cmd) : Prop :=
  pass.blocked name = none ∧ Stops others name c

def OnFilesOfNode (host : Host) (node : Config.ProjectNode) (c : Cmd) : Prop :=
  ∃ orchDir, orchestratorDirForNode host.home node = .ok orchDir ∧
    OnOrchestratorFilesOf (orchestratorName node.prefix_) orchDir c

def WorkspaceCmd (pass : Pass) (name : String) (entry : DesiredWorkspace) (c : Cmd) : Prop :=
  Starts (OnFilesOf name entry.workspace.dir) pass.opts.daemonRunning name c ∨
    pass.CleansUp (OnFilesOf name
      (pass.workspaceCleanupDir name (desiredWorkspaceState entry pass.desired))) name c

def OrchestratorCmd (pass : Pass) (name : String) (entry : DesiredOrchestrator) (c : Cmd) :
    Prop :=
  Starts (OnFilesOfNode pass.host entry.node) pass.opts.daemonRunning
      (orchestratorName entry.node.prefix_) c ∨
    pass.CleansUp (OnOrchestratorFilesOf name
      (pass.orchestratorCleanupDir name (desiredOrchestratorState entry))) name c

variable {pass : Pass} {c : Cmd}

lemma uses_whenever_create {start : Bool} {name : String} {entry : DesiredWorkspace}
    (hstart : start = true → pass.opts.daemonRunning = true) :
    Uses (pass.WorkspaceCmd name entry) (whenever start
      (within ReconcileError.workspace
        (Manager.create pass.host pass.setup name entry.workspace))) := by
  refine uses_whenever fun hb => uses_within ?_
  refine (Manager.uses_createInner ..).mono fun c hc => .inl ?_
  rcases hc with hc | hc | ⟨-, hc⟩
  · exact .inl hc
  · exact .inr (.inl hc)
  · exact .inr (.inr ⟨hstart hb, hc⟩)

lemma uses_visit {ρ : Type} {kind : TargetKind} {name : String} {prev : Option ρ} {record : ρ}
    {matches_ : Bool} {refresh : Action ReconcileError (List Note)}
    {redo : Action ReconcileError String} {allowed : Cmd → Prop} (hrefresh : Uses allowed refresh)
    (hredo : pass.blocked name = none → Uses allowed redo) :
    Uses allowed (pass.visit kind name prev record matches_ refresh redo) := by
  unfold visit
  split
  · exact uses_bind hrefresh fun _ => uses_pure _
  · split
    · exact uses_pure _
    · exact uses_bind (hredo ‹_›) fun _ => uses_pure _

lemma uses_visitWorkspace (pass : Pass) (name : String) (entry : DesiredWorkspace) :
    Uses (pass.WorkspaceCmd name entry) (pass.visitWorkspace name entry) := by
  have hensure : Uses (pass.WorkspaceCmd name entry) (within ReconcileError.workspace
      (ensureArtifacts pass.host pass.setup name entry.workspace)) :=
    uses_within ((uses_ensureArtifacts ..).mono fun _ hc => .inl (.inl hc))
  refine uses_visit ?_ fun hfree => ?_
  · refine uses_bind hensure fun _ => uses_bind (uses_whenever_create ?_) fun _ => uses_pure _
    exact fun h => (Bool.and_eq_true_iff.mp h).1
  · refine uses_bind (uses_within ?_) fun _ => uses_bind hensure fun _ => ?_
    · exact (uses_cleanupWorkspaceState ..).mono fun _ hc => .inr ⟨hfree, hc⟩
    · exact uses_bind (uses_whenever_create id) fun _ => uses_pure _

lemma uses_drop {ρ : Type} {others : Cmd → Prop} {name : String} (kind : TargetKind) (prev : ρ)
    {cleanup : Action ReconcileError Unit} (h : Uses (Stops others name) cleanup) :
    Uses (pass.CleansUp others name) (pass.drop kind name prev cleanup) := by
  unfold drop
  split
  · exact uses_pure _
  · rename_i hfree
    exact uses_bind (h.mono fun _ hc => ⟨hfree, hc⟩) fun _ => uses_pure _

lemma uses_dropWorkspace (pass : Pass) (name : String) (prev : WorkspaceState) :
    Uses (pass.CleansUp (OnFilesOf name prev.dir) name) (pass.dropWorkspace name prev) :=
  uses_drop _ _ (uses_within (uses_cleanupWorkspaceState name prev.dir))

lemma uses_visitOrchestrator (pass : Pass) (name : String) (entry : DesiredOrchestrator) :
    Uses (pass.OrchestratorCmd name entry) (pass.visitOrchestrator name entry) := by
  have hensure : ∀ start : Bool, (start = true → pass.opts.daemonRunning = true) →
      Uses (pass.OrchestratorCmd name entry) (pass.ensureEntry entry start) := by
    intro start hstart
    refine uses_within ((uses_ensureOrchestrator ..).mono fun c hc => .inl ?_)
    rcases hc with hc | hc | ⟨hb, hc⟩
    · exact .inl hc
    · exact .inr (.inl hc)
    · exact .inr (.inr ⟨hstart hb, hc⟩)
  unfold visitOrchestrator
  dsimp only
  split
  · exact uses_bind (hensure false (by simp)) fun _ => uses_pure _
  · refine uses_visit (uses_bind (hensure _ id) fun _ => uses_pure _) fun hfree => ?_
    refine uses_bind (uses_within ?_) fun _ => uses_bind (hensure _ id) fun _ => uses_pure _
    exact (uses_cleanupOrchestratorState ..).mono fun _ hc => .inr ⟨hfree, hc⟩

lemma uses_dropOrchestrator (pass : Pass) (name : String) (prev : OrchestratorState) :
    Uses (pass.CleansUp (OnOrchestratorFilesOf name prev.artifactDir) name)
      (pass.dropOrchestrator name prev) :=
  uses_drop _ _ (uses_within (uses_cleanupOrchestratorState name prev.artifactDir))

def LoopCmd (pass : Pass) (c : Cmd) : Prop :=
  (∃ entry ∈ pass.desired.workspaces.toList, pass.WorkspaceCmd entry.1 entry.2 c) ∨
    (∃ entry ∈ pass.droppedWorkspaces, pass.CleansUp (OnFilesOf entry.1 entry.2.dir) entry.1 c) ∨
    (∃ entry ∈ pass.desired.orchestrators.toList, pass.OrchestratorCmd entry.1 entry.2 c) ∨
    ∃ entry ∈ pass.droppedOrchestrators,
      pass.CleansUp (OnOrchestratorFilesOf entry.1 entry.2.artifactDir) entry.1 c

lemma uses_visitAll (pass : Pass) : Uses pass.LoopCmd pass.visitAll := by
  refine uses_bind (uses_traverse fun entry hentry => ?_) fun _ => ?_
  · exact (pass.uses_visitWorkspace ..).mono fun c hc => .inl ⟨entry, hentry, hc⟩
  refine uses_bind (uses_traverse fun entry hentry => ?_) fun _ => ?_
  · exact (pass.uses_dropWorkspace ..).mono fun c hc => .inr (.inl ⟨entry, hentry, hc⟩)
  refine uses_bind (uses_traverse fun entry hentry => ?_) fun _ => ?_
  · exact (pass.uses_visitOrchestrator ..).mono fun c hc =>
      .inr (.inr (.inl ⟨entry, hentry, hc⟩))
  refine uses_bind (uses_traverse fun entry hentry => ?_) fun _ => uses_pure _
  exact (pass.uses_dropOrchestrator ..).mono fun c hc => .inr (.inr (.inr ⟨entry, hentry, hc⟩))

lemma CleansUp.stops {others : Cmd → Prop} {name : String} (hc : pass.CleansUp others name c)
    (hquiet : ∀ c, others c → c.Quiet) {w : String} (hw : c.session? = some w) :
    w = name ∧ pass.blocked w = none ∧ c = .destroySession w := by
  obtain ⟨hfree, hc | rfl | rfl⟩ := hc
  · cases (hquiet c hc).symm.trans hw
  · cases hw
  · obtain rfl := Option.some.inj hw
    exact ⟨rfl, hfree, rfl⟩

lemma OnFilesOfNode.quiet {host : Host} {node : Config.ProjectNode}
    (h : OnFilesOfNode host node c) : c.Quiet := by
  obtain ⟨orchDir, -, hc⟩ := h
  exact hc.quiet

lemma LoopCmd.stops (hc : pass.LoopCmd c) {w : String} (hw : c.session? = some w)
    (hcreates : c.creates? ≠ some w) :
    w ∈ desiredSessionNames pass.previous pass.desired ∧ pass.blocked w = none ∧
      c = .destroySession w := by
  rw [mem_desiredSessionNames]
  rcases hc with ⟨entry, hentry, hc | hc⟩ | ⟨entry, hentry, hc⟩ | ⟨entry, hentry, hc | hc⟩ |
    ⟨entry, hentry, hc⟩
  · exact absurd (hc.creates (fun _ => OnFilesOf.quiet) hw).2.1 hcreates
  · obtain ⟨rfl, hstops⟩ := hc.stops (fun _ => OnFilesOf.quiet) hw
    exact ⟨.inr (.inr (.inl (BTreeMap.mem_of_mem_toList hentry))), hstops⟩
  · obtain ⟨rfl, hstops⟩ := hc.stops (fun _ => OnFilesOf.quiet) hw
    exact ⟨.inl (BTreeMap.mem_of_mem_toList (List.mem_filter.mp hentry).1), hstops⟩
  · exact absurd (hc.creates (fun _ => OnFilesOfNode.quiet) hw).2.1 hcreates
  · obtain ⟨rfl, hstops⟩ := hc.stops (fun _ => OnOrchestratorFilesOf.quiet) hw
    exact ⟨.inr (.inr (.inr (BTreeMap.mem_of_mem_toList hentry))), hstops⟩
  · obtain ⟨rfl, hstops⟩ := hc.stops (fun _ => OnOrchestratorFilesOf.quiet) hw
    exact ⟨.inr (.inl (BTreeMap.mem_of_mem_toList (List.mem_filter.mp hentry).1)), hstops⟩

/-! ## How a visit can end -/

section Outcomes

variable {σ : Type} {exec : Exec σ} {pass : Pass} {name : String} {s t : σ} {l : List Cmd}

/-- How the visit of a desired entry can end. -/
inductive Outcome {ρ : Type} (exec : Exec σ) (pass : Pass) (kind : TargetKind) (name : String)
    (prev : Option ρ) (record : ρ) (matches_ : Bool) (refresh : Action ReconcileError (List Note))
    (redo : Action ReconcileError String) (s t : σ) (l : List Cmd) : Visit ρ → Prop
  /-- It matches its record. -/
  | refreshed {notes : List Note} (hmatches : matches_ = true)
      (hrun : Runs exec refresh s (.ok notes) t l) :
      Outcome exec pass kind name prev record matches_ refresh redo s t l ⟨notes, some record⟩
  /-- Its session blocks the change. -/
  | blocked {reason : String} (hmatches : matches_ = false)
      (hblocked : pass.blocked name = some reason) :
      Outcome exec pass kind name prev record matches_ refresh redo s t l
        ⟨[.action ⟨kind, name, .blocked (changeOf prev), reason⟩], prev⟩
  /-- It is set up again. -/
  | redone {details : String} (hmatches : matches_ = false) (hfree : pass.blocked name = none)
      (hrun : Runs exec redo s (.ok details) t l) :
      Outcome exec pass kind name prev record matches_ refresh redo s t l
        ⟨[.action ⟨kind, name, .done (changeOf prev), details⟩], some record⟩

/-- The visit of a desired entry. -/
theorem runs_visit {ρ : Type} {kind : TargetKind} {prev : Option ρ} {record : ρ}
    {matches_ : Bool} {refresh : Action ReconcileError (List Note)}
    {redo : Action ReconcileError String} {visit : Visit ρ}
    (h : Runs exec (pass.visit kind name prev record matches_ refresh redo) s (.ok visit) t l) :
    Outcome exec pass kind name prev record matches_ refresh redo s t l visit := by
  unfold Pass.visit at h
  split at h
  · obtain ⟨notes, hrun, rfl⟩ := runs_bind_pure.mp h
    exact .refreshed ‹_› hrun
  · rename_i hmatches
    rw [Bool.not_eq_true] at hmatches
    split at h
    · obtain ⟨rfl, -, -⟩ := runs_pure_ok.mp h
      exact .blocked hmatches ‹_›
    · obtain ⟨details, hrun, rfl⟩ := runs_bind_pure.mp h
      exact .redone hmatches ‹_› hrun

/-- The parts of a refreshed workspace. -/
theorem runs_refreshWorkspace {entry : DesiredWorkspace} {notes : List Note}
    (h : Runs exec (pass.refreshWorkspace name entry) s (.ok notes) t l) :
    notes = missingNotes .workspace name
        (pass.opts.daemonRunning && !(pass.session name).exists_) ∧
      ∃ u l₁ l₂, Runs exec (ensureArtifacts pass.host pass.setup name entry.workspace) s (.ok ()) u
          l₁ ∧
        Runs exec (whenever (pass.opts.daemonRunning && !(pass.session name).exists_)
          (within ReconcileError.workspace
            (Manager.create pass.host pass.setup name entry.workspace))) u (.ok ()) t l₂ := by
  obtain ⟨_, u, l₁, l₂, hensure, h₁, rfl⟩ := runs_bind_ok.mp h
  obtain ⟨_, hcreate, rfl⟩ := runs_bind_pure.mp h₁
  exact ⟨rfl, u, l₁, l₂, runs_within_ok.mp hensure, hcreate⟩

/-- The parts of a workspace that is set up again. -/
theorem runs_redoWorkspace {entry : DesiredWorkspace} {details : String}
    (h : Runs exec (pass.redoWorkspace name entry) s (.ok details) t l) :
    ∃ u v l₁ l₂ l₃, Runs exec (cleanupWorkspaceState name
        (pass.workspaceCleanupDir name (desiredWorkspaceState entry pass.desired))) s (.ok ()) u
        l₁ ∧
      Runs exec (ensureArtifacts pass.host pass.setup name entry.workspace) u (.ok ()) v l₂ ∧
      Runs exec (whenever pass.opts.daemonRunning (within ReconcileError.workspace
        (Manager.create pass.host pass.setup name entry.workspace))) v (.ok ()) t l₃ ∧
      l = l₁ ++ (l₂ ++ l₃) := by
  obtain ⟨_, u, l₁, l₂, hcleanup, h₁, rfl⟩ := runs_bind_ok.mp h
  obtain ⟨_, v, l₃, l₄, hensure, h₂, rfl⟩ := runs_bind_ok.mp h₁
  obtain ⟨_, hcreate, -⟩ := runs_bind_pure.mp h₂
  exact ⟨u, v, l₁, l₃, l₄, runs_within_ok.mp hcleanup, runs_within_ok.mp hensure, hcreate, rfl⟩

/-- The visit of a desired orchestrator: the root is not started by a pass. -/
theorem runs_visitOrchestrator {entry : DesiredOrchestrator} {visit : Visit OrchestratorState}
    (h : Runs exec (pass.visitOrchestrator name entry) s (.ok visit) t l) :
    (entry.root = true ∧ Runs exec (pass.ensureEntry entry false) s (.ok ()) t l ∧
      visit = ⟨if pass.orchestratorMatches name (desiredOrchestratorState entry) then []
        else rootNotes name pass.previous.orchestrators[name]?.isSome,
        some (desiredOrchestratorState entry)⟩) ∨
    (entry.root = false ∧ Outcome exec pass .orchestrator name
      pass.previous.orchestrators[name]? (desiredOrchestratorState entry)
      (pass.orchestratorMatches name (desiredOrchestratorState entry))
      (pass.refreshOrchestrator name entry) (pass.redoOrchestrator name entry) s t l visit) := by
  unfold visitOrchestrator at h
  dsimp only at h
  split at h
  · obtain ⟨_, hensure, rfl⟩ := runs_bind_pure.mp h
    exact .inl ⟨‹_›, hensure, rfl⟩
  · rename_i hroot
    exact .inr ⟨Bool.not_eq_true _ ▸ hroot, runs_visit h⟩

/-- The visit of a dropped entry is blocked, or the entry is stopped and cleaned up. -/
theorem runs_drop {ρ : Type} {kind : TargetKind} {prev : ρ} {cleanup : Action ReconcileError Unit}
    {visit : Visit ρ} (h : Runs exec (pass.drop kind name prev cleanup) s (.ok visit) t l) :
    (∃ reason, visit = ⟨[.action ⟨kind, name, .blocked .remove, reason⟩], some prev⟩) ∨
    (Runs exec cleanup s (.ok ()) t l ∧ visit =
      ⟨[.action ⟨kind, name, .done .remove, "generated artifacts cleaned up"⟩], none⟩) := by
  unfold drop at h
  split at h
  · exact .inl ⟨_, (runs_pure_ok.mp h).1⟩
  · obtain ⟨_, hcleanup, rfl⟩ := runs_bind_pure.mp h
    exact .inr ⟨hcleanup, rfl⟩

structure Loops (exec : Exec σ) (pass : Pass) (s t : σ) (l : List Cmd) where
  workspaces : List ((String × DesiredWorkspace) × Visit WorkspaceState)
  removed : List ((String × WorkspaceState) × Visit WorkspaceState)
  orchestrators : List ((String × DesiredOrchestrator) × Visit OrchestratorState)
  removedOrchestrators : List ((String × OrchestratorState) × Visit OrchestratorState)
  (s₁ s₂ s₃ : σ)
  (l₁ l₂ l₃ l₄ : List Cmd)
  runs₁ : Runs exec (Fallible.traverse (fun entry => pass.visitWorkspace entry.1 entry.2)
    pass.desired.workspaces.toList) s (.ok workspaces) s₁ l₁
  runs₂ : Runs exec (Fallible.traverse (fun entry => pass.dropWorkspace entry.1 entry.2)
    pass.droppedWorkspaces) s₁ (.ok removed) s₂ l₂
  runs₃ : Runs exec (Fallible.traverse (fun entry => pass.visitOrchestrator entry.1 entry.2)
    pass.desired.orchestrators.toList) s₂ (.ok orchestrators) s₃ l₃
  runs₄ : Runs exec (Fallible.traverse (fun entry => pass.dropOrchestrator entry.1 entry.2)
    pass.droppedOrchestrators) s₃ (.ok removedOrchestrators) t l₄
  commands_eq : l = l₁ ++ (l₂ ++ (l₃ ++ l₄))

def Loops.visits (loops : Loops exec pass s t l) : Visits :=
  ⟨named loops.workspaces ++ named loops.removed,
    named loops.orchestrators ++ named loops.removedOrchestrators⟩

lemma runs_visitAll {visits : Visits} (h : Runs exec pass.visitAll s (.ok visits) t l) :
    ∃ loops : Loops exec pass s t l, visits = loops.visits := by
  obtain ⟨workspaces, s₁, l₁, l', h₁, h', rfl⟩ := runs_bind_ok.mp h
  obtain ⟨removed, s₂, l₂, l'', h₂, h'', rfl⟩ := runs_bind_ok.mp h'
  obtain ⟨orchestrators, s₃, l₃, l₄', h₃, h₃', rfl⟩ := runs_bind_ok.mp h''
  obtain ⟨removedOrchestrators, h₄, hvisits⟩ := runs_bind_pure.mp h₃'
  exact ⟨⟨workspaces, removed, orchestrators, removedOrchestrators, s₁, s₂, s₃, l₁, l₂, l₃, l₄',
    h₁, h₂, h₃, h₄, rfl⟩, hvisits⟩

lemma Loops.runs (loops : Loops exec pass s t l) :
    Runs exec pass.visitAll s (.ok loops.visits) t l := by
  refine runs_bind_ok.mpr ⟨_, _, _, _, loops.runs₁, ?_, loops.commands_eq⟩
  refine runs_bind_ok.mpr ⟨_, _, _, _, loops.runs₂, ?_, rfl⟩
  refine runs_bind_ok.mpr ⟨_, _, _, _, loops.runs₃, ?_, rfl⟩
  exact runs_bind_pure.mpr ⟨_, loops.runs₄, rfl⟩

end Outcomes

end Pass

section Parts

variable {σ : Type} {exec : Exec σ} {s t : σ} {l : List Cmd}

/-- The parts of a pass that ends without an error. -/
theorem runs_reconcileDesiredState {r : Reconciler} {host : Host} {desired : DesiredState}
    {opts : ReconcileOptions} {report : ReconcileReport}
    (h : Runs exec (r.reconcileDesiredState host desired opts) s (.ok report) t l) :
    ∃ pass : Pass, ∃ s₁ s₂ s₃ l₁ l₂ l₃ l₄, ∃ loops : pass.Loops exec s₂ s₃ l₃,
      pass.host = host ∧ pass.setup = r.setup ∧ pass.desired = desired ∧ pass.opts = opts ∧
      Runs exec (loadRuntimeState (reconcileStatePath r.configPath)) s (.ok pass.previous) s₁ l₁ ∧
      Runs exec (loadSessionSnapshots (desiredSessionNames pass.previous desired)) s₁
        (.ok pass.sessions) s₂ l₂ ∧
      Runs exec (saveRuntimeState (reconcileStatePath r.configPath) (pass.next loops.visits)) s₃
        (.ok ()) t l₄ ∧
      report = loops.visits.report ∧ l = l₁ ++ (l₂ ++ (l₃ ++ l₄)) := by
  obtain ⟨previous, s₁, l₁, l', hload, h₁, rfl⟩ := runs_bind_ok.mp h
  obtain ⟨sessions, s₂, l₂, l'', hsnapshots, h₂, rfl⟩ := runs_bind_ok.mp h₁
  obtain ⟨visits, s₃, l₃, l₄', hvisits, h₃, rfl⟩ := runs_bind_ok.mp h₂
  obtain ⟨_, hsave, hreport⟩ := runs_bind_pure.mp h₃
  obtain ⟨loops, rfl⟩ := Pass.runs_visitAll hvisits
  exact ⟨⟨host, r.setup, desired, opts, previous, sessions⟩, s₁, s₂, s₃, l₁, l₂, l₃, l₄', loops,
    rfl, rfl, rfl, rfl, hload, hsnapshots, hsave, hreport, rfl⟩

end Parts

end Ax.Workspaces
