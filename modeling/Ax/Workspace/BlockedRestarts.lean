import Ax.Workspace.Convergence

/-!
# Restarts that were blocked

A pass that cannot restart an agent keeps the old record of it, so that the next pass finds the
same difference again.  The paths of the socket and of the configuration are recorded once for
all agents, whether or not they could be restarted: an agent that only differs in these is not
restarted any more.

Main results:

- Theorem `blocked_restart_due_iff`: the next pass restarts exactly the agents whose own records
  differ.
- Theorem `blocked_restart_forgotten`: an agent whose restart was due to a changed socket path.
-/

namespace Ax.Workspaces

open Fallible

/-- The entry is recorded differently in two states. -/
def TargetKind.Differs (kind : TargetKind) (a b : RuntimeState) (name : String) : Prop :=
  match kind with
  | .workspace => a.workspaces[name]? ≠ b.workspaces[name]?
  | .orchestrator => a.orchestrators[name]? ≠ b.orchestrators[name]?

/-- The operation is a restart, done or blocked. -/
def Operation.IsRestart (operation : Operation) : Prop :=
  operation = .done .restart ∨ operation = .blocked .restart

/-- The commands destroy a session and, if it is to be started, create it afterwards. -/
def Restarts (start : Bool) (name : String) (l : List Cmd) : Prop :=
  Cmd.destroySession name ∈ l ∧
    (start = true → ∃ c, c.creates? = some name ∧ [Cmd.destroySession name, c].Sublist l)

lemma Restarts.mono {start : Bool} {name : String} {l l' : List Cmd}
    (h : Restarts start name l) (hl : l.Sublist l') : Restarts start name l' := by
  obtain ⟨hdestroy, hcreate⟩ := h
  refine ⟨hl.subset hdestroy, fun hstart => ?_⟩
  obtain ⟨c, hc, hsublist⟩ := hcreate hstart
  exact ⟨c, hc, hsublist.trans hl⟩

lemma Restarts.append {start : Bool} {name : String} {l l' : List Cmd}
    (hdestroy : Cmd.destroySession name ∈ l)
    (hcreate : start = true → ∃ c ∈ l', c.creates? = some name) :
    Restarts start name (l ++ l') := by
  refine ⟨List.mem_append_left _ hdestroy, fun hstart => ?_⟩
  obtain ⟨c, hmem, hc⟩ := hcreate hstart
  exact ⟨c, hc, (List.singleton_sublist.mpr hdestroy).append (List.singleton_sublist.mpr hmem)⟩

namespace Pass

variable {σ : Type} {exec : Exec σ} {live : σ → BTreeMap String Flags} {s t : σ} {l : List Cmd}
  {pass : Pass} {name : String}

/-! ## What is recorded -/

lemma isSome_of_changeOf {ρ : Type} {prev : Option ρ} (h : changeOf prev = .restart) :
    prev.isSome := by
  unfold changeOf at h
  split at h
  · assumption
  · cases h

lemma not_isRestart_missingNotes {kind : TargetKind} {missing : Bool} {action : ReconcileAction}
    (h : Note.action action ∈ missingNotes kind name missing) : ¬action.operation.IsRestart := by
  unfold missingNotes at h
  split at h
  · obtain rfl := Note.action.inj (List.mem_singleton.mp h)
    rintro (h | h) <;> cases h
  · cases h

lemma Outcome.restart {ρ : Type} {kind : TargetKind} {prev : Option ρ} {record : ρ}
    {matches_ : Bool} {refresh : Action ReconcileError (List Note)}
    {redo : Action ReconcileError String} {visit : Visit ρ}
    (h : Outcome exec pass kind name prev record matches_ refresh redo s t l visit)
    (hrefresh : ∀ notes, Runs exec refresh s (.ok notes) t l →
      ∃ missing, notes = missingNotes kind name missing) {action : ReconcileAction}
    (haction : Note.action action ∈ visit.notes) (hrestart : action.operation.IsRestart) :
    action.kind = kind ∧ action.name = name ∧ matches_ = false ∧ prev.isSome ∧
      (action.operation = .blocked .restart → visit.record = prev) := by
  cases h with
  | refreshed hmatches hrun =>
    obtain ⟨missing, rfl⟩ := hrefresh _ hrun
    exact absurd hrestart (not_isRestart_missingNotes haction)
  | blocked hmatches =>
    obtain rfl := Note.action.inj (List.mem_singleton.mp haction)
    refine ⟨rfl, rfl, hmatches, isSome_of_changeOf ?_, fun _ => rfl⟩
    rcases hrestart with h | h
    · cases h
    · exact Operation.blocked.inj h
  | redone hmatches =>
    obtain rfl := Note.action.inj (List.mem_singleton.mp haction)
    refine ⟨rfl, rfl, hmatches, isSome_of_changeOf ?_, fun h => by cases h⟩
    rcases hrestart with h | h
    · exact Operation.done.inj h
    · cases h

lemma not_isRestart_rootNotes {recorded : Bool} {action : ReconcileAction}
    (h : Note.action action ∈ rootNotes name recorded) : ¬action.operation.IsRestart := by
  rw [rootNotes] at h
  split at h <;> simp at h <;> subst h <;> rintro (h | h) <;> cases h

namespace Loops

/-- Why a pass reports a restart: the entry does not match its record, which stays if the restart
is blocked. -/
inductive Restart (pass : Pass) (next : RuntimeState) (name : String) (operation : Operation) :
    TargetKind → Prop
  | workspace {entry : DesiredWorkspace} (hentry : pass.desired.workspaces[name]? = some entry)
      (hmatches : pass.workspaceMatches name (desiredWorkspaceState entry pass.desired) = false)
      (hprev : pass.previous.workspaces[name]?.isSome)
      (hrecord : operation = .blocked .restart →
        next.workspaces[name]? = pass.previous.workspaces[name]?) :
      Restart pass next name operation .workspace
  | orchestrator {entry : DesiredOrchestrator}
      (hentry : pass.desired.orchestrators[name]? = some entry) (hroot : entry.root = false)
      (hmatches : pass.orchestratorMatches name (desiredOrchestratorState entry) = false)
      (hprev : pass.previous.orchestrators[name]?.isSome)
      (hrecord : operation = .blocked .restart →
        next.orchestrators[name]? = pass.previous.orchestrators[name]?) :
      Restart pass next name operation .orchestrator

lemma restart (loops : pass.Loops exec s t l) {action : ReconcileAction}
    (haction : action ∈ loops.visits.report.actions) (hrestart : action.operation.IsRestart) :
    Restart pass (pass.next loops.visits) action.name action.operation action.kind := by
  rw [Visits.report, ReconcileReport.mem_actions_ofNotes, List.mem_append, List.mem_flatMap,
    List.mem_flatMap] at haction
  rcases haction with ⟨visit, hvisit, hnote⟩ | ⟨visit, hvisit, hnote⟩
  · have hnext : (pass.next loops.visits).workspaces[visit.1]? = visit.2.record :=
      BTreeMap.get?_collect loops.nodup_workspaces hvisit
    rcases List.mem_append.mp hvisit with hkept | hremoved
    · obtain ⟨result, hresult, rfl⟩ := List.mem_map.mp hkept
      obtain ⟨hentry, _, _, _, hrun⟩ := run_of_result loops.runs₁ hresult
      obtain ⟨hkind, hname, hmatches, hprev, hrecord⟩ := (runs_visit hrun).restart
        (fun _ hrefresh => ⟨_, (runs_refreshWorkspace hrefresh).1⟩) hnote hrestart
      rw [hkind, hname]
      exact .workspace (Std.ExtTreeMap.mem_toList_iff_getElem?_eq_some.mp hentry) hmatches hprev
        fun h => hnext.trans (hrecord h)
    · obtain ⟨result, hresult, rfl⟩ := List.mem_map.mp hremoved
      obtain ⟨-, _, _, _, hrun⟩ := run_of_result loops.runs₂ hresult
      rcases runs_drop hrun with ⟨reason, hvisit⟩ | ⟨-, hvisit⟩ <;>
        simp [hvisit] at hnote <;> simp [Operation.IsRestart, hnote] at hrestart
  · have hnext : (pass.next loops.visits).orchestrators[visit.1]? = visit.2.record :=
      BTreeMap.get?_collect loops.nodup_orchestrators hvisit
    rcases List.mem_append.mp hvisit with hkept | hremoved
    · obtain ⟨result, hresult, rfl⟩ := List.mem_map.mp hkept
      obtain ⟨hentry, _, _, _, hrun⟩ := run_of_result loops.runs₃ hresult
      rcases runs_visitOrchestrator hrun with ⟨-, -, hvisit⟩ | ⟨hroot, houtcome⟩
      · rw [hvisit] at hnote
        dsimp only at hnote
        split at hnote
        · cases hnote
        · exact absurd hrestart (not_isRestart_rootNotes hnote)
      obtain ⟨hkind, hname, hmatches, hprev, hrecord⟩ := houtcome.restart
        (fun _ hrefresh => ⟨_, (runs_bind_pure.mp hrefresh).choose_spec.2⟩) hnote hrestart
      rw [hkind, hname]
      exact .orchestrator (Std.ExtTreeMap.mem_toList_iff_getElem?_eq_some.mp hentry) hroot hmatches
        hprev fun h => hnext.trans (hrecord h)
    · obtain ⟨result, hresult, rfl⟩ := List.mem_map.mp hremoved
      obtain ⟨-, _, _, _, hrun⟩ := run_of_result loops.runs₄ hresult
      rcases runs_drop hrun with ⟨reason, hvisit⟩ | ⟨-, hvisit⟩ <;>
        simp [hvisit] at hnote <;> simp [Operation.IsRestart, hnote] at hrestart

/-! ## What is restarted -/

lemma restarts_workspace (hexec : Consistent exec live) (loops : pass.Loops exec s t l)
    {entry : DesiredWorkspace} (hentry : pass.desired.workspaces[name]? = some entry)
    (hdiffers : pass.workspaceMatches name (desiredWorkspaceState entry pass.desired) = false)
    (hprev : pass.previous.workspaces[name]?.isSome) (hfree : pass.blocked name = none)
    (hlive : (live s)[name]?.isSome) :
    (∃ details, ⟨.workspace, name, .done .restart, details⟩ ∈ loops.visits.report.actions) ∧
      Restarts pass.opts.daemonRunning name l := by
  obtain ⟨visit, hmem, ⟨visited⟩⟩ := loops.visited_workspace hexec.toAgrees hentry
  cases runs_visit visited.runs with
  | refreshed hmatches => cases hdiffers.symm.trans hmatches
  | blocked _ hblocked => cases hfree.symm.trans hblocked
  | redone _ _ hrun =>
    obtain ⟨_, _, _, _, _, hcleanup, -, hcreate, hl⟩ := runs_redoWorkspace hrun
    rw [changeOf, if_pos hprev] at hmem
    refine ⟨⟨_, loops.mem_actions (.inl ⟨_, hmem, List.mem_singleton_self _⟩)⟩, ?_⟩
    have hdestroy := (live_of_cleanupWorkspaceState hexec hcleanup).2 (by rwa [visited.found])
    have hrestarts : Restarts pass.opts.daemonRunning name visited.commands := by
      rw [hl]
      refine .append hdestroy fun hdaemon => ?_
      rcases runs_whenever.mp hcreate with ⟨-, hcreate⟩ | ⟨hnot, -⟩
      · obtain ⟨-, -, c, hmem, hc⟩ := live_of_createInner hexec (runs_within_ok.mp hcreate)
        exact ⟨c, List.mem_append_right _ hmem, hc⟩
      · cases hdaemon.symm.trans hnot
    refine hrestarts.mono (visited.sublist.trans (List.Sublist.trans ?_ loops.sublist_commands))
    simp

lemma restarts_orchestrator (hexec : Consistent exec live) (loops : pass.Loops exec s t l)
    (hdesired : pass.desired.WellFormed pass.host) {entry : DesiredOrchestrator}
    (hentry : pass.desired.orchestrators[name]? = some entry) (hroot : entry.root = false)
    (hdiffers : pass.orchestratorMatches name (desiredOrchestratorState entry) = false)
    (hprev : pass.previous.orchestrators[name]?.isSome) (hfree : pass.blocked name = none)
    (hlive : (live s)[name]?.isSome) :
    (∃ details, ⟨.orchestrator, name, .done .restart, details⟩ ∈ loops.visits.report.actions) ∧
      Restarts pass.opts.daemonRunning name l := by
  obtain ⟨visit, hmem, ⟨visited⟩⟩ := loops.visited_orchestrator hexec.toAgrees hdesired hentry
  rcases runs_visitOrchestrator visited.runs with ⟨hnot, -⟩ | ⟨-, houtcome⟩
  · cases hroot.symm.trans hnot
  cases houtcome with
  | refreshed hmatches => cases hdiffers.symm.trans hmatches
  | blocked _ hblocked => cases hfree.symm.trans hblocked
  | redone _ _ hrun =>
    obtain ⟨_, u, l₁, l₂, hcleanup, h₁, hl⟩ := runs_bind_ok.mp hrun
    obtain ⟨_, hensure, -⟩ := runs_bind_pure.mp h₁
    rw [changeOf, if_pos hprev] at hmem
    refine ⟨⟨_, loops.mem_actions (.inr ⟨_, hmem, List.mem_singleton_self _⟩)⟩, ?_⟩
    have hwell := hdesired.orchestrators _ _ hentry
    obtain ⟨hgone, hdestroy⟩ :=
      live_of_cleanupOrchestratorState hexec (runs_within_ok.mp hcleanup)
    have hcreate : pass.opts.daemonRunning = true → ∃ c ∈ l₂, c.creates? = some name := by
      intro hdaemon
      have hensured := live_of_ensureOrchestrator hexec hwell.node_name (runs_within_ok.mp hensure)
      have hroute : entry.node.prefix_ ≠ "" := by simpa [hroot] using hwell.root_eq
      rw [if_pos ⟨by simp [hroute, hdaemon], by rw [hgone, BTreeMap.get?_erase, if_pos rfl]⟩]
        at hensured
      exact hensured.2
    have hvisited : (l₁ ++ l₂).Sublist loops.l₃ := hl ▸ visited.sublist
    by_cases hearlier : Cmd.destroySession name ∈ loops.l₁ ++ loops.l₂
    · refine (Restarts.append hearlier hcreate).mono (List.Sublist.trans ?_ loops.sublist_commands)
      have hl₂ := (List.sublist_append_right l₁ l₂).trans hvisited
      exact ((List.Sublist.refl _).append hl₂).trans (List.sublist_append_left _ _)
    · obtain ⟨flags, hflags⟩ := Option.isSome_iff_exists.mp hlive
      have hbefore : (live visited.before)[name]?.isSome := by
        rw [visited.found, loops.kept₂ hexec.toAgrees hflags hearlier]
        rfl
      refine (Restarts.append (hdestroy hbefore) hcreate).mono
        (hvisited.trans (List.Sublist.trans ?_ loops.sublist_commands))
      exact (List.sublist_append_right _ _).trans (List.sublist_append_left _ _)

end Loops

lemma workspaceMatches_eq_true_iff {record : WorkspaceState} (h : pass.globalChanged = false) :
    pass.workspaceMatches name record = true ↔ pass.previous.workspaces[name]? = some record := by
  rw [workspaceMatches, h]
  cases pass.previous.workspaces[name]? <;> simp [workspaceStateMatches_iff]

lemma orchestratorMatches_eq_true_iff {record : OrchestratorState}
    (h : pass.globalChanged = false) :
    pass.orchestratorMatches name record = true ↔
      pass.previous.orchestrators[name]? = some record := by
  rw [orchestratorMatches, h]
  cases pass.previous.orchestrators[name]? <;> simp [orchestratorStateMatches_iff]

lemma blocked_eq_none (hallow : pass.opts.allowDisruptiveChanges = true)
    (h : pass.sessions[name]? = some (Flags.snapshot ⟨false, true⟩)) :
    pass.blocked name = none := by
  simp [blocked, session, h, blockReason, disruptionBlockReason, Flags.snapshot, hallow]

end Pass

section Passes

variable {σ : Type} {exec : Exec σ} {live : σ → BTreeMap String Flags} {s t s' t' : σ}
  {l l' : List Cmd} {r : Reconciler} {host : Host} {desired : DesiredState}
  {opts opts' : ReconcileOptions}

/-- An agent whose restart was blocked is restarted by the next pass that is allowed to, once its
session is detached and idle, if and only if its own record differs from what is desired. -/
theorem blocked_restart_due_iff (hexec : Consistent exec live) (hfiles : StoresDocuments exec)
    (hdesired : desired.WellFormed host) {previous : RuntimeState}
    (hprevious : RuntimeState.ofRead (reconcileStatePath r.configPath)
      (exec (.readJson (reconcileStatePath r.configPath)) s).1 = .ok previous)
    {report report' : ReconcileReport} {action : ReconcileAction}
    (h : Runs exec (r.reconcileDesiredState host desired opts) s (.ok report) t l)
    (haction : action ∈ report.actions) (hrestart : action.operation = .blocked .restart)
    (hfile : (exec (.readJson (reconcileStatePath r.configPath)) s').1 =
      (exec (.readJson (reconcileStatePath r.configPath)) t).1)
    (hidle : (live s')[action.name]? = some ⟨false, true⟩)
    (hallow : opts'.allowDisruptiveChanges = true)
    (h' : Runs exec (r.reconcileDesiredState host desired opts') s' (.ok report') t' l') :
    (∃ details, ⟨action.kind, action.name, .done .restart, details⟩ ∈ report'.actions) ∧
        Restarts opts'.daemonRunning action.name l' ↔
      action.kind.Differs previous desired.recorded action.name := by
  obtain ⟨pass, s₁, s₂, s₃, l₁, l₂, l₃, l₄, loops, rfl, hsetup, rfl, rfl, hload, -, hsave, rfl,
    rfl⟩ := runs_reconcileDesiredState h
  obtain ⟨hloaded, -, -⟩ := runs_loadRuntimeState hload
  obtain rfl := Except.ok.inj (hprevious.symm.trans hloaded)
  have hsaved := ofRead_of_saveRuntimeState hfiles hsave
  obtain ⟨pass', s₁', s₂', s₃', l₁', l₂', l₃', l₄', loops', hhost, hsetup', hdesired', rfl, hload',
    hsnapshots', -, rfl, rfl⟩ := runs_reconcileDesiredState h'
  obtain ⟨hloaded', -, -⟩ := runs_loadRuntimeState hload'
  have hnext : pass'.previous = pass.next loops.visits := by
    rw [hfile] at hloaded'
    exact Except.ok.inj (hloaded'.symm.trans hsaved)
  -- the first pass has recorded the paths for everybody
  have hglobal : pass'.globalChanged = false := by
    simp [Pass.globalChanged, hnext, Pass.next, Pass.socketPath, Pass.configPath, hdesired']
  have hlive₁ := hexec.live_of_quiet (uses_loadRuntimeState _) hload'
  obtain ⟨hlive₂, hsessions⟩ := runs_loadSessionSnapshots hexec.toAgrees
    (nodup_desiredSessionNames _ _) hsnapshots'
  obtain ⟨kind, name, operation, details⟩ := action
  have hlive : (live s₂')[name]?.isSome := by
    rw [hlive₂, hlive₁, hidle]
    rfl
  have hfree : pass.desired.HasSession name → pass'.blocked name = none := by
    intro hname
    refine Pass.blocked_eq_none hallow ?_
    rw [hsessions name (hname.mem_names _), hlive₁, hidle, Option.map_some]
  have hsublist : l₃'.Sublist (l₁' ++ (l₂' ++ (l₃' ++ l₄'))) :=
    (List.sublist_append_left l₃' l₄').trans
      ((List.sublist_append_right _ _).trans (List.sublist_append_right _ _))
  have hdone (details : String) : Operation.IsRestart
      (ReconcileAction.mk kind name (.done .restart) details).operation := .inl rfl
  cases loops.restart haction (.inr hrestart) with
  | @workspace entry hentry _ hprev hrecord =>
    have hname : pass.desired.HasSession name := .inl (by
      rw [Std.ExtTreeMap.mem_iff_isSome_getElem?, hentry]
      rfl)
    have hkept := hnext ▸ hrecord hrestart
    have hdiffers : TargetKind.workspace.Differs pass.previous pass.desired.recorded name ↔
        pass'.workspaceMatches name (desiredWorkspaceState entry pass'.desired) = false := by
      rw [← Bool.not_eq_true, Pass.workspaceMatches_eq_true_iff hglobal, hkept, TargetKind.Differs,
        DesiredState.recorded, Std.ExtTreeMap.getElem?_map, hentry, Option.map_some, ← hdesired']
    rw [hdiffers]
    constructor
    · rintro ⟨⟨details, hmem⟩, -⟩
      cases loops'.restart hmem (hdone details) with
      | workspace hentry' hmatches =>
        rw [hdesired', hentry] at hentry'
        cases hentry'
        exact hmatches
    · intro hmatches
      obtain ⟨hreport, hrestarts⟩ := loops'.restarts_workspace hexec (hdesired' ▸ hentry) hmatches
        (hkept ▸ hprev) (hfree hname) hlive
      exact ⟨hreport, hrestarts.mono hsublist⟩
  | @orchestrator entry hentry hroot _ hprev hrecord =>
    have hkept := hnext ▸ hrecord hrestart
    have hdiffers : TargetKind.orchestrator.Differs pass.previous pass.desired.recorded name ↔
        pass'.orchestratorMatches name (desiredOrchestratorState entry) = false := by
      rw [← Bool.not_eq_true, Pass.orchestratorMatches_eq_true_iff hglobal, hkept,
        TargetKind.Differs, DesiredState.recorded, Std.ExtTreeMap.getElem?_map, hentry,
        Option.map_some]
    rw [hdiffers]
    constructor
    · rintro ⟨⟨details, hmem⟩, -⟩
      cases loops'.restart hmem (hdone details) with
      | orchestrator hentry' _ hmatches =>
        rw [hdesired', hentry] at hentry'
        cases hentry'
        exact hmatches
    · intro hmatches
      obtain ⟨hreport, hrestarts⟩ := loops'.restarts_orchestrator hexec
        (hdesired' ▸ hhost ▸ hdesired) (hdesired' ▸ hentry) hroot hmatches (hkept ▸ hprev)
        (hfree (.inr ⟨_, hentry, hroot⟩)) hlive
      exact ⟨hreport, hrestarts.mono hsublist⟩

end Passes

def Machine.settle (m : Machine) (name : String) : Machine :=
  { m with sessions := m.sessions.insert name ⟨false, true⟩ }

lemma Machine.readJson_settle (m : Machine) (name path : String) :
    (exec (.readJson path) (m.settle name)).1 = (exec (.readJson path) m).1 :=
  rfl

/-- The directory of a workspace has changed while its session was attached. -/
theorem blocked_restart_due_moved :
    let r : Reconciler := ⟨"/run/ax.sock", "/p/.ax/config.yaml", "/bin/ax"⟩
    let m := Machine.recording r.configPath (DesiredState.only "w" "/old").recorded
      ((∅ : BTreeMap String Flags).insert "w" ⟨true, true⟩)
    let p := r.reconcileDesiredState .plain (.only "w" "/w") ⟨true, true⟩
    (p.run.run Machine.exec m).1 = .ok { actions :=
        [⟨.workspace, "w", .blocked .restart, "tmux session is attached"⟩] } ∧
      Restarts true "w"
        (p.run.commands Machine.exec ((p.run.run Machine.exec m).2.settle "w")) := by
  intro r m p
  have hresult : (p.run.run Machine.exec m).1 = .ok { actions :=
      [⟨.workspace, "w", .blocked .restart, "tmux session is attached"⟩] } := by
    decide +kernel
  have hresult' : (p.run.run Machine.exec ((p.run.run Machine.exec m).2.settle "w")).1 =
      .ok { actions := [⟨.workspace, "w", .done .restart,
        "generated artifacts refreshed and session started"⟩] } := by
    decide +kernel
  refine ⟨hresult, ((blocked_restart_due_iff Machine.consistent_exec Machine.storesDocuments_exec
    (DesiredState.wellFormed_only _ _ _) (Machine.ofRead_recording _ _ _)
    (Prog.runs_of_fst hresult) (List.mem_singleton_self _) rfl (Machine.readJson_settle _ _ _)
    (BTreeMap.get?_insert_self ..) rfl (Prog.runs_of_fst hresult')).mpr ?_).2⟩
  show (DesiredState.only "w" "/old").recorded.workspaces["w"]? ≠
    (DesiredState.only "w" "/w").recorded.workspaces["w"]?
  decide +kernel

/-- The socket path has changed while the session of a workspace was attached: the next pass
takes the new path for what the agent was started with, and does not restart it. -/
theorem blocked_restart_forgotten :
    let r : Reconciler := ⟨"/run/ax.sock", "/p/.ax/config.yaml", "/bin/ax"⟩
    let m := Machine.recording r.configPath
      { (DesiredState.only "w" "/w").recorded with socketPath := "/run/old.sock" }
      ((∅ : BTreeMap String Flags).insert "w" ⟨true, true⟩)
    let p := r.reconcileDesiredState .plain (.only "w" "/w") ⟨true, true⟩
    let m' := (p.run.run Machine.exec m).2.settle "w"
    (p.run.run Machine.exec m).1 = .ok { actions :=
        [⟨.workspace, "w", .blocked .restart, "tmux session is attached"⟩] } ∧
      m'.sessions["w"]? = some ⟨false, true⟩ ∧
      (p.run.run Machine.exec m').1 = .ok {} ∧
      ∀ c ∈ p.run.commands Machine.exec m', c.destroys? = none ∧ c.creates? = none := by
  decide +kernel

end Ax.Workspaces
