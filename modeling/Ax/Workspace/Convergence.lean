import Ax.Workspace.Loops
import Ax.Workspace.Machine

/-!
# Passes that settle

After a pass that was not blocked, what is desired is recorded and runs, what was dropped is
gone, and the next pass has nothing to do.  The one exception is a workspace that takes over the
name of an orchestrator that is dropped in the same pass: its session is started first and then
stopped as that of the orchestrator.

Main results:

- Theorem `reconcile_converges_iff`: sessions, records and the next pass, after a pass that was not
  blocked.
- Theorem `reconcile_diverges_takenName`: a workspace with the name of a dropped orchestrator.
-/

namespace Ax.Workspaces

open Fallible

/-! ## Records -/

namespace DesiredState

def recorded (desired : DesiredState) : RuntimeState where
  version := RuntimeState.new.version
  socketPath := cleanPathStr desired.socketPath
  configPath := cleanPathStr desired.configPath
  workspaces := desired.workspaces.map fun _ entry => desiredWorkspaceState entry desired
  orchestrators := desired.orchestrators.map fun _ entry => desiredOrchestratorState entry

def HasSession (desired : DesiredState) (name : String) : Prop :=
  name ∈ desired.workspaces ∨
    ∃ entry, desired.orchestrators[name]? = some entry ∧ entry.root = false

lemma HasSession.mem_names {desired : DesiredState} {name : String} (h : desired.HasSession name)
    (previous : RuntimeState) : name ∈ desiredSessionNames previous desired := by
  rw [mem_desiredSessionNames]
  rcases h with h | ⟨entry, hentry, -⟩
  · exact .inr (.inr (.inl h))
  · refine .inr (.inr (.inr ?_))
    rw [Std.ExtTreeMap.mem_iff_isSome_getElem?, hentry]
    rfl

def Drops (desired : DesiredState) (previous : RuntimeState) (name : String) : Prop :=
  (name ∈ previous.workspaces ∧ name ∉ desired.workspaces) ∨
    (name ∈ previous.orchestrators ∧ name ∉ desired.orchestrators)

end DesiredState

namespace Pass

variable {σ : Type} {exec : Exec σ} {live : σ → BTreeMap String Flags} {s t : σ} {l : List Cmd}
  {pass : Pass}

lemma get?_collect_named {α ρ : Type} {desired : BTreeMap String α} {f : α → ρ}
    {kept : List ((String × α) × Visit ρ)} {removed : List ((String × ρ) × Visit ρ)}
    (hnodup : ((named kept ++ named removed).map Prod.fst).Nodup)
    (hkeys : kept.map Prod.fst = desired.toList) (hkept : ∀ e ∈ kept, e.2.record = some (f e.1.2))
    (hremoved : ∀ e ∈ removed, e.2.record = none) (name : String) :
    (BTreeMap.collect Prod.fst (fun visit : String × Visit ρ => visit.2.record)
      (named kept ++ named removed))[name]? = desired[name]?.map f := by
  refine Option.ext fun r => ?_
  rw [BTreeMap.get?_collect_eq_some hnodup, Option.map_eq_some_iff]
  constructor
  · rintro ⟨visit, hvisit, rfl, hrecord⟩
    rcases List.mem_append.mp hvisit with hvisit | hvisit
    · obtain ⟨e, he, rfl⟩ := List.mem_map.mp hvisit
      have hentry : e.1 ∈ desired.toList := hkeys ▸ List.mem_map_of_mem he
      refine ⟨e.1.2, Std.ExtTreeMap.mem_toList_iff_getElem?_eq_some.mp hentry, ?_⟩
      exact Option.some.inj ((hkept e he).symm.trans hrecord)
    · obtain ⟨e, he, rfl⟩ := List.mem_map.mp hvisit
      cases (hremoved e he).symm.trans hrecord
  · rintro ⟨a, ha, rfl⟩
    have hentry := Std.ExtTreeMap.mem_toList_iff_getElem?_eq_some.mpr ha
    rw [← hkeys] at hentry
    obtain ⟨e, he, heq⟩ := List.mem_map.mp hentry
    refine ⟨_, List.mem_append_left _ (List.mem_map_of_mem he), congrArg Prod.fst heq, ?_⟩
    rw [hkept e he, heq]

def Visits.Unblocked (visits : Visits) : Prop :=
  (∀ visit ∈ visits.workspaces, visit.2.Unblocked) ∧
    ∀ visit ∈ visits.orchestrators, visit.2.Unblocked

lemma Visits.unblocked_of_report {visits : Visits}
    (h : ∀ action ∈ visits.report.actions, ∀ change, action.operation ≠ .blocked change) :
    visits.Unblocked := by
  refine ⟨fun visit hvisit action change hmem => ?_, fun visit hvisit action change hmem => ?_⟩
  all_goals
    refine h action (ReconcileReport.mem_actions_ofNotes.mpr ?_) change
  · exact List.mem_append_left _ (List.mem_flatMap.mpr ⟨visit, hvisit, hmem⟩)
  · exact List.mem_append_right _ (List.mem_flatMap.mpr ⟨visit, hvisit, hmem⟩)

namespace Loops

lemma next_eq (hexec : Consistent exec live) (loops : pass.Loops exec s t l)
    (hdesired : pass.desired.WellFormed pass.host) (hunblocked : loops.visits.Unblocked) :
    pass.next loops.visits = pass.desired.recorded := by
  have hworkspaces := forall_results (P := fun entry visit => visit.Unblocked →
      visit.record = some (desiredWorkspaceState entry.2 pass.desired))
    (fun _ _ _ _ _ _ hrun hfree => (unblocked_visitWorkspace hexec hrun hfree).1)
    loops.runs₁
  have hremoved := forall_results (P := fun _ visit => visit.Unblocked → visit.record = none)
    (fun _ _ _ _ _ _ hrun hfree => (unblocked_dropWorkspace hexec hrun hfree).1) loops.runs₂
  have horchestrators := forall_results (P := fun entry visit => visit.Unblocked →
      visit.record = some (desiredOrchestratorState entry.2))
    (fun _ hentry _ _ _ _ hrun hfree => (unblocked_visitOrchestrator hexec
      (hdesired.orchestrators _ _ (Std.ExtTreeMap.mem_toList_iff_getElem?_eq_some.mp hentry))
      hrun hfree).1) loops.runs₃
  have hremovedOrchestrators := forall_results
    (P := fun _ visit => visit.Unblocked → visit.record = none)
    (fun _ _ _ _ _ _ hrun hfree => (unblocked_dropOrchestrator hexec hrun hfree).1) loops.runs₄
  obtain ⟨hfree, hfree'⟩ := hunblocked
  simp only [visits, named, List.forall_mem_append, List.forall_mem_map] at hfree hfree'
  rw [next, DesiredState.recorded, RuntimeState.mk.injEq]
  refine ⟨rfl, rfl, rfl, BTreeMap.ext_get? fun name => ?_, BTreeMap.ext_get? fun name => ?_⟩
  · rw [Std.ExtTreeMap.getElem?_map]
    exact get?_collect_named loops.nodup_workspaces (map_fst_of_traverse loops.runs₁)
      (fun e he => hworkspaces e he (hfree.1 e he))
      (fun e he => hremoved e he (hfree.2 e he)) name
  · rw [Std.ExtTreeMap.getElem?_map]
    exact get?_collect_named loops.nodup_orchestrators (map_fst_of_traverse loops.runs₃)
      (fun e he => horchestrators e he (hfree'.1 e he))
      (fun e he => hremovedOrchestrators e he (hfree'.2 e he)) name

/-! ## Sessions after the loops -/

variable {name : String}

variable (hexec : Consistent exec live)
include hexec

variable (loops : pass.Loops exec s t l)

lemma live₁_isSome (hunblocked : loops.visits.Unblocked)
    (hdaemon : pass.opts.daemonRunning = true)
    (hsession : (pass.session name).exists_ = (live s)[name]?.isSome)
    (h : name ∈ pass.desired.workspaces) : (live loops.s₁)[name]?.isSome := by
  rw [Std.ExtTreeMap.mem_iff_isSome_getElem?] at h
  obtain ⟨entry, hentry⟩ := Option.isSome_iff_exists.mp h
  obtain ⟨visit, hmem, ⟨visited⟩⟩ := loops.visited_workspace hexec.toAgrees hentry
  rw [visited.left]
  refine (unblocked_visitWorkspace hexec visited.runs (hunblocked.1 _ hmem)).2 hdaemon ?_
  rw [visited.found, hsession]
  exact id

section

variable (hdesired : pass.desired.WellFormed pass.host) (hunblocked : loops.visits.Unblocked)
include hdesired hunblocked

lemma live₃_cases (name : String) :
    if ∃ entry, pass.desired.orchestrators[name]? = some entry ∧ entry.root = false then
      (pass.opts.daemonRunning = true → (live loops.s₃)[name]?.isSome) ∧
        (pass.opts.daemonRunning = false → (live loops.s₂)[name]? = none →
          (live loops.s₃)[name]? = none)
    else (live loops.s₃)[name]? = (live loops.s₂)[name]? := by
  cases hentry : pass.desired.orchestrators[name]? with
  | none =>
    rw [if_neg (by simp)]
    refine loops.live₃_eq hexec.toAgrees hdesired ?_
    rw [Std.ExtTreeMap.mem_iff_isSome_getElem?, hentry]
    exact Bool.false_ne_true
  | some entry =>
    obtain ⟨visit, hmem, ⟨visited⟩⟩ := loops.visited_orchestrator hexec.toAgrees hdesired hentry
    obtain ⟨-, hroot, hstarted⟩ := unblocked_visitOrchestrator hexec
      (hdesired.orchestrators _ _ hentry) visited.runs (hunblocked.2 _ hmem)
    rw [visited.left, ← visited.found]
    cases hrootEq : entry.root with
    | true =>
      rw [if_neg (by simp [hrootEq])]
      exact hroot hrootEq
    | false =>
      rw [if_pos ⟨entry, rfl, hrootEq⟩]
      refine ⟨hstarted hrootEq, fun hdaemon => hexec.none_of_runs ?_ visited.runs⟩
      refine (pass.uses_visitOrchestrator name entry).mono fun c hc hcreates => ?_
      have hsession : c.session? = some name := by
        obtain ⟨dir, launch, env, rfl⟩ := Cmd.eq_of_creates? hcreates
        rfl
      rcases hc with hc | hc
      · have hstart := (hc.creates (fun _ => OnFilesOfNode.quiet) hsession).1
        cases hdaemon.symm.trans hstart
      · obtain ⟨-, -, rfl⟩ := hc.stops (fun _ => OnOrchestratorFilesOf.quiet) hsession
        cases hcreates

lemma live_isSome (hdaemon : pass.opts.daemonRunning = true)
    (hsession : (pass.session name).exists_ = (live s)[name]?.isSome)
    (hkinds : name ∈ pass.previous.orchestrators → name ∈ pass.desired.workspaces →
      name ∈ pass.desired.orchestrators) (h : pass.desired.HasSession name) :
    (live t)[name]?.isSome := by
  have hcases := loops.live₃_cases hexec hdesired hunblocked name
  split at hcases
  · rename_i horchestrator
    obtain ⟨entry, hentry, -⟩ := horchestrator
    rw [loops.live₄_eq hexec.toAgrees fun _ => by
      rw [Std.ExtTreeMap.mem_iff_isSome_getElem?, hentry]
      rfl]
    exact hcases.1 hdaemon
  · rename_i hnot
    have hworkspace := h.resolve_right hnot
    rw [loops.live₄_eq hexec.toAgrees fun hmem => hkinds hmem hworkspace, hcases,
      loops.live₂_eq hexec.toAgrees fun _ => hworkspace]
    exact loops.live₁_isSome hexec hunblocked hdaemon hsession hworkspace

omit hdesired in
lemma live_eq_none_of_droppedOrchestrator (hrecorded : name ∈ pass.previous.orchestrators)
    (hdropped : name ∉ pass.desired.orchestrators) : (live t)[name]? = none := by
  obtain ⟨prev, hprev⟩ := BTreeMap.exists_of_mem hrecorded
  obtain ⟨visit, hmem, ⟨visited⟩⟩ := loops.visited_droppedOrchestrator hexec.toAgrees
    (BTreeMap.mem_filter_notContains.mpr ⟨hprev, hdropped⟩)
  rw [visited.left]
  exact (unblocked_dropOrchestrator hexec visited.runs (hunblocked.2 _ hmem)).2.1

lemma live_eq_none (hdrops : pass.desired.Drops pass.previous name)
    (hnot : ¬(pass.opts.daemonRunning = true ∧ pass.desired.HasSession name)) :
    (live t)[name]? = none := by
  by_cases hlast : name ∈ pass.previous.orchestrators ∧ name ∉ pass.desired.orchestrators
  · exact loops.live_eq_none_of_droppedOrchestrator hexec hunblocked hlast.1 hlast.2
  · obtain ⟨hrecorded, hdropped⟩ := hdrops.resolve_right hlast
    obtain ⟨prev, hprev⟩ := BTreeMap.exists_of_mem hrecorded
    obtain ⟨visit, hmem, ⟨visited⟩⟩ := loops.visited_droppedWorkspace hexec.toAgrees
      (BTreeMap.mem_filter_notContains.mpr ⟨hprev, hdropped⟩)
    have hgone : (live loops.s₂)[name]? = none := by
      rw [visited.left]
      exact (unblocked_dropWorkspace hexec visited.runs (hunblocked.1 _ hmem)).2.1
    rw [loops.live₄_eq hexec.toAgrees fun hmem => by_contra fun hnot => hlast ⟨hmem, hnot⟩]
    have hcases := loops.live₃_cases hexec hdesired hunblocked name
    split at hcases
    · refine hcases.2 ?_ hgone
      rw [← Bool.not_eq_true]
      exact fun hdaemon => hnot ⟨hdaemon, .inr ‹_›⟩
    · rw [hcases, hgone]

end

/-- What was dropped is stopped. -/
theorem destroySession_mem (hunblocked : loops.visits.Unblocked)
    (hdrops : pass.desired.Drops pass.previous name) (hlive : (live s)[name]?.isSome) :
    Cmd.destroySession name ∈ l := by
  by_contra hnot
  replace hnot := mt (loops.sublist_commands.subset (a := Cmd.destroySession name)) hnot
  simp only [List.mem_append, not_or] at hnot
  obtain ⟨⟨⟨hnot₁, hnot₂⟩, hnot₃⟩, hnot₄⟩ := hnot
  obtain ⟨flags, hflags⟩ := Option.isSome_iff_exists.mp hlive
  rcases hdrops with ⟨hrecorded, hdropped⟩ | ⟨hrecorded, hdropped⟩
  · obtain ⟨prev, hprev⟩ := BTreeMap.exists_of_mem hrecorded
    obtain ⟨visit, hmem, ⟨visited⟩⟩ := loops.visited_droppedWorkspace hexec.toAgrees
      (BTreeMap.mem_filter_notContains.mpr ⟨hprev, hdropped⟩)
    have hdestroy := (unblocked_dropWorkspace hexec visited.runs (hunblocked.1 _ hmem)).2.2
      (by rw [visited.found, loops.kept₁ hexec.toAgrees hflags hnot₁]; rfl)
    exact hnot₂ (visited.sublist.subset hdestroy)
  · obtain ⟨prev, hprev⟩ := BTreeMap.exists_of_mem hrecorded
    obtain ⟨visit, hmem, ⟨visited⟩⟩ := loops.visited_droppedOrchestrator hexec.toAgrees
      (BTreeMap.mem_filter_notContains.mpr ⟨hprev, hdropped⟩)
    have hbefore := loops.kept₃ hexec.toAgrees hflags (by simp [hnot₁, hnot₂, hnot₃])
    have hdestroy := (unblocked_dropOrchestrator hexec visited.runs (hunblocked.2 _ hmem)).2.2
      (by rw [visited.found, hbefore]; rfl)
    exact hnot₄ (visited.sublist.subset hdestroy)

end Loops

/-! ## A pass with nothing to do -/

def FindsLive (names : String → Prop) : (c : Cmd) → c.Answer → Prop
  | .sessionExists w, found => names w → found = true
  | _, _ => True

lemma honours_ensureOrchestrator {names : String → Prop} {host : Host} {setup : Setup}
    {node : Config.ProjectNode} {parentName : String} {startSession : Bool}
    (h : node.prefix_ ≠ "" → startSession = true → names (orchestratorName node.prefix_)) :
    Honours (FindsLive names) Cmd.Quiet
      (ensureOrchestrator host setup node parentName startSession) := by
  refine honours_bind (honours_of_uses (uses_raise _ _)) fun orchDir => ?_
  refine honours_bind (honours_of_uses (uses_raise _ _)) fun runtime => ?_
  refine honours_bind (honours_of_uses ?_) fun _ => honours_whenever fun hstart => ?_
  · exact (uses_ensureOrchestratorFiles ..).mono fun _ => OnOrchestratorFilesOf.quiet
  · refine honours_ask_bind rfl fun found hfound => honours_whenever fun hmissing => ?_
    obtain ⟨hroute, hstart⟩ := Bool.and_eq_true_iff.mp hstart
    have hlive : found = true := hfound (h (of_decide_eq_true hroute) hstart)
    rw [hlive] at hmissing
    cases hmissing

structure Settled (pass : Pass) : Prop where
  previous_eq : pass.previous = pass.desired.recorded
  sessions : pass.opts.daemonRunning = true → ∀ name, pass.desired.HasSession name →
    (pass.session name).exists_ = true

namespace Settled

lemma globalChanged (h : pass.Settled) : pass.globalChanged = false := by
  simp [Pass.globalChanged, h.previous_eq, DesiredState.recorded, socketPath, configPath]

variable {name : String}

variable (h : pass.Settled)
include h

lemma workspaceMatches {entry : DesiredWorkspace}
    (hentry : pass.desired.workspaces[name]? = some entry) :
    pass.workspaceMatches name (desiredWorkspaceState entry pass.desired) = true := by
  rw [Pass.workspaceMatches, h.globalChanged, h.previous_eq]
  simp [DesiredState.recorded, Std.ExtTreeMap.getElem?_map, hentry, workspaceStateMatches_iff]

lemma orchestratorMatches {entry : DesiredOrchestrator}
    (hentry : pass.desired.orchestrators[name]? = some entry) :
    pass.orchestratorMatches name (desiredOrchestratorState entry) = true := by
  rw [Pass.orchestratorMatches, h.globalChanged, h.previous_eq]
  simp [DesiredState.recorded, Std.ExtTreeMap.getElem?_map, hentry, orchestratorStateMatches_iff]

lemma droppedWorkspaces : pass.droppedWorkspaces = [] := by
  rw [Pass.droppedWorkspaces, h.previous_eq]
  exact BTreeMap.filter_notContains_map pass.desired.workspaces _

lemma droppedOrchestrators : pass.droppedOrchestrators = [] := by
  rw [Pass.droppedOrchestrators, h.previous_eq]
  exact BTreeMap.filter_notContains_map pass.desired.orchestrators _

lemma missing_eq_false (hname : name ∈ pass.desired.workspaces) :
    (pass.opts.daemonRunning && !(pass.session name).exists_) = false := by
  cases hdaemon : pass.opts.daemonRunning with
  | false => rfl
  | true => rw [h.sessions hdaemon name (.inl hname)]; rfl

lemma honours_visitAll (hdesired : pass.desired.WellFormed pass.host) :
    Honours (FindsLive fun name => pass.opts.daemonRunning = true ∧ pass.desired.HasSession name)
      Cmd.Quiet pass.visitAll := by
  unfold visitAll
  rw [h.droppedWorkspaces, h.droppedOrchestrators]
  refine honours_bind (honours_traverse fun entry hentry => honours_of_uses ?_) fun _ => ?_
  · have hget := Std.ExtTreeMap.mem_toList_iff_getElem?_eq_some.mp hentry
    rw [visitWorkspace, visit, if_pos (h.workspaceMatches hget), refreshWorkspace,
      h.missing_eq_false (BTreeMap.mem_of_mem_toList hentry)]
    refine uses_bind (uses_bind (uses_within ?_) fun _ => uses_bind (uses_pure _) fun _ =>
      uses_pure _) fun _ => uses_pure _
    exact (uses_ensureArtifacts ..).mono fun _ => OnFilesOf.quiet
  refine honours_bind (.done trivial) fun _ => ?_
  refine honours_bind (honours_traverse fun entry hentry => ?_) fun _ => .done trivial
  have hget := Std.ExtTreeMap.mem_toList_iff_getElem?_eq_some.mp hentry
  have hwell := hdesired.orchestrators _ _ hget
  unfold visitOrchestrator
  dsimp only
  split
  · refine honours_bind (honours_within (honours_ensureOrchestrator ?_)) fun _ => .done trivial
    exact fun _ hstart => absurd hstart (by decide)
  · rename_i hroot
    rw [visit, if_pos (h.orchestratorMatches hget)]
    refine honours_bind (honours_bind (honours_within (honours_ensureOrchestrator ?_)) fun _ =>
      .done trivial) fun _ => .done trivial
    rw [hwell.node_name]
    exact fun _ hdaemon => ⟨hdaemon, .inr ⟨_, hget, Bool.not_eq_true _ ▸ hroot⟩⟩

lemma notes_workspace {entry : DesiredWorkspace} {visit : Visit WorkspaceState}
    (hentry : pass.desired.workspaces[name]? = some entry)
    (hvisit : Runs exec (pass.visitWorkspace name entry) s (.ok visit) t l) :
    visit.notes = [] := by
  have hmatches := h.workspaceMatches hentry
  cases runs_visit hvisit with
  | refreshed _ hrun =>
    rw [(runs_refreshWorkspace hrun).1, h.missing_eq_false (BTreeMap.mem_of_get? hentry)]
    rfl
  | blocked hnot => cases hmatches.symm.trans hnot
  | redone hnot => cases hmatches.symm.trans hnot

lemma notes_orchestrator {entry : DesiredOrchestrator} {visit : Visit OrchestratorState}
    (hentry : pass.desired.orchestrators[name]? = some entry)
    (hvisit : Runs exec (pass.visitOrchestrator name entry) s (.ok visit) t l) :
    visit.notes = [] := by
  have hmatches := h.orchestratorMatches hentry
  rcases runs_visitOrchestrator hvisit with ⟨-, -, rfl⟩ | ⟨hroot, houtcome⟩
  · exact if_pos hmatches
  · cases houtcome with
    | refreshed _ hrun =>
      obtain ⟨_, -, rfl⟩ := runs_bind_pure.mp hrun
      refine if_neg fun hmissing => ?_
      simp only [Bool.and_eq_true, Bool.not_eq_true'] at hmissing
      obtain ⟨⟨hdaemon, hmissing⟩, -⟩ := hmissing
      cases (h.sessions hdaemon name (.inr ⟨entry, hentry, hroot⟩)).symm.trans hmissing
    | blocked hnot => cases hmatches.symm.trans hnot
    | redone hnot => cases hmatches.symm.trans hnot

lemma report_eq (loops : pass.Loops exec s t l) : loops.visits.report = {} := by
  have hworkspaces := forall_results (P := fun _ visit => visit.notes = [])
    (fun _ hentry _ _ _ _ hrun => h.notes_workspace
      (Std.ExtTreeMap.mem_toList_iff_getElem?_eq_some.mp hentry) hrun)
    loops.runs₁
  have horchestrators := forall_results (P := fun _ visit => visit.notes = [])
    (fun _ hentry _ _ _ _ hrun => h.notes_orchestrator
      (Std.ExtTreeMap.mem_toList_iff_getElem?_eq_some.mp hentry) hrun)
    loops.runs₃
  have hremoved : loops.removed = [] := by
    rw [← List.map_eq_nil_iff, map_fst_of_traverse loops.runs₂, h.droppedWorkspaces]
  have hremovedOrchestrators : loops.removedOrchestrators = [] := by
    rw [← List.map_eq_nil_iff, map_fst_of_traverse loops.runs₄, h.droppedOrchestrators]
  have hnotes : ∀ {α ρ : Type} {results : List ((String × α) × Visit ρ)},
      (∀ result ∈ results, result.2.notes = []) →
        (named results).flatMap (fun visit => visit.2.notes) = [] := by
    intro α ρ results hresults
    rw [List.flatMap_eq_nil_iff]
    intro visit hvisit
    obtain ⟨result, hresult, rfl⟩ := List.mem_map.mp hvisit
    exact hresults result hresult
  rw [Visits.report, Loops.visits, hremoved, hremovedOrchestrators]
  simp only [List.flatMap_append]
  rw [hnotes hworkspaces, hnotes horchestrators]
  rfl

end Settled

end Pass

section Passes

variable {σ : Type} {exec : Exec σ} {live : σ → BTreeMap String Flags} {s t : σ} {l : List Cmd}
  {r : Reconciler} {host : Host} {desired : DesiredState} {opts : ReconcileOptions}

lemma Pass.exists_session {pass : Pass} {name : String}
    (h : pass.sessions[name]? = (live s)[name]?.map Flags.snapshot) :
    (pass.session name).exists_ = (live s)[name]?.isSome := by
  rw [Pass.session, h]
  cases (live s)[name]? <;> rfl

lemma runs_loadRuntimeState {path : String} {previous : RuntimeState}
    (h : Runs exec (loadRuntimeState path) s (.ok previous) t l) :
    RuntimeState.ofRead path (exec (.readJson path) s).1 = .ok previous ∧
      t = (exec (.readJson path) s).2 ∧ l = [.readJson path] := by
  obtain ⟨document, u, l₁, l₂, hask, hraise, rfl⟩ := runs_bind_ok.mp h
  obtain ⟨hdocument, rfl, rfl⟩ := runs_ask.mp hask
  obtain rfl := Except.ok.inj hdocument
  obtain ⟨hprevious, rfl, rfl⟩ := runs_raise_ok.mp hraise
  exact ⟨hprevious, rfl, rfl⟩

lemma reconcile_settled (hexec : Agrees exec live) (hdesired : desired.WellFormed host)
    (hrecorded : RuntimeState.ofRead (reconcileStatePath r.configPath)
      (exec (.readJson (reconcileStatePath r.configPath)) s).1 = .ok desired.recorded)
    (hlive : opts.daemonRunning = true → ∀ name, desired.HasSession name → (live s)[name]?.isSome)
    {result : Except ReconcileError ReconcileReport}
    (h : Runs exec (r.reconcileDesiredState host desired opts) s result t l) :
    (∀ c ∈ l, c.Quiet) ∧ ∀ report, result = .ok report → report = {} := by
  -- what the pass loads makes it a settled one
  have hsettled : ∀ {previous sessions s₁ s₂ l₁ l₂},
      Runs exec (loadRuntimeState (reconcileStatePath r.configPath)) s (.ok previous) s₁ l₁ →
      Runs exec (loadSessionSnapshots (desiredSessionNames previous desired)) s₁
        (.ok sessions) s₂ l₂ →
      live s₂ = live s ∧
        Pass.Settled ⟨host, r.setup, desired, opts, previous, sessions⟩ := by
    intro previous sessions s₁ s₂ l₁ l₂ hload hsnapshots
    have hlive₁ := hexec.live_of_quiet (uses_loadRuntimeState _) hload
    obtain ⟨hprevious, -, -⟩ := runs_loadRuntimeState hload
    obtain rfl := Except.ok.inj (hrecorded.symm.trans hprevious)
    obtain ⟨hlive₂, hsessions⟩ := runs_loadSessionSnapshots hexec
      (nodup_desiredSessionNames _ _) hsnapshots
    refine ⟨hlive₂.trans hlive₁, rfl, fun hdaemon name hname => ?_⟩
    rw [Pass.exists_session (hsessions name (hname.mem_names _)), hlive₁]
    exact hlive hdaemon name hname
  constructor
  · refine forall_commands_of_bind h (fun _ _ _ => (uses_loadRuntimeState _).runs) ?_
    intro previous s₁ l₁ l₂ hload h₁
    refine forall_commands_of_bind h₁ (fun _ _ _ => (uses_loadSessionSnapshots _).runs) ?_
    intro sessions s₂ l₃ l₄ hsnapshots h₂
    obtain ⟨hlive₂, hpass⟩ := hsettled hload hsnapshots
    refine forall_commands_of_bind h₂ (fun x u l₅ hvisits => ?_) ?_
    · refine ((hpass.honours_visitAll hdesired).runs (I := fun u => live u = live s)
        (fun c u hc hu => ⟨?_, (hexec.quiet hc u).trans hu⟩) hvisits hlive₂).1
      cases c with
      | sessionExists w =>
        intro hname
        rw [hexec.sessionExists, hu]
        exact hlive hname.1 w hname.2
      | _ => trivial
    · intro visits u l₅ l₆ _ h₃
      refine forall_commands_of_bind h₃ (fun _ _ _ => (uses_saveRuntimeState _ _).runs) ?_
      intro _ v l₇ l₈ _ h₄
      exact (uses_pure _).runs h₄
  · rintro report rfl
    obtain ⟨pass, s₁, s₂, s₃, l₁, l₂, l₃, l₄, loops, rfl, hsetup, rfl, rfl, hload, hsnapshots, -,
      rfl, -⟩ := runs_reconcileDesiredState h
    obtain ⟨-, hprevious, hsessions⟩ := hsettled hload hsnapshots
    have hpass : pass.Settled := ⟨hprevious, hsessions⟩
    exact hpass.report_eq loops

lemma RuntimeState.ofRead_encode (path : String) (state : RuntimeState) :
    ofRead path (.ok (.ok (codec.encode state))) = .ok state := by
  simp only [ofRead, bind, Except.bind, codec.decode_encode]
  rfl

lemma ofRead_of_saveRuntimeState (hfiles : StoresDocuments exec) {path : String}
    {state : RuntimeState} (h : Runs exec (saveRuntimeState path state) s (.ok ()) t l) :
    RuntimeState.ofRead path (exec (.readJson path) t).1 = .ok state := by
  obtain ⟨_, u, l₁, l₂, -, h₁, rfl⟩ := runs_bind_ok.mp h
  obtain ⟨written, v, l₃, l₄, hwrite, hraise, rfl⟩ := runs_bind_ok.mp h₁
  obtain ⟨hwritten, rfl, rfl⟩ := runs_ask.mp hwrite
  obtain ⟨hok, rfl, rfl⟩ := runs_raise_ok.mp hraise
  rw [hfiles path _ u ((Except.ok.inj hwritten) ▸ hok)]
  exact RuntimeState.ofRead_encode path state

structure Converged (exec : Exec σ) (live : σ → BTreeMap String Flags) (r : Reconciler)
    (host : Host) (desired : DesiredState) (opts : ReconcileOptions) (previous : RuntimeState)
    (s t : σ) (l : List Cmd) : Prop where
  /-- The state file records exactly what is desired. -/
  recorded : RuntimeState.ofRead (reconcileStatePath r.configPath)
    (exec (.readJson (reconcileStatePath r.configPath)) t).1 = .ok desired.recorded
  /-- Every agent that should have a session has one. -/
  running : opts.daemonRunning = true → ∀ name, desired.HasSession name →
    (live t)[name]?.isSome
  /-- The sessions of dropped entries were stopped. -/
  stopped : ∀ name, desired.Drops previous name → (live s)[name]?.isSome →
    Cmd.destroySession name ∈ l
  /-- No dropped entry has a session, unless another agent of its name has one. -/
  gone : ∀ name, desired.Drops previous name →
    ¬(opts.daemonRunning = true ∧ desired.HasSession name) → (live t)[name]? = none
  /-- The next pass starts and stops nothing and has nothing to report. -/
  stable : ∀ result u l', Runs exec (r.reconcileDesiredState host desired opts) t result u l' →
    (∀ c ∈ l', c.Quiet) ∧ ∀ report, result = .ok report → report = {}

/-- A pass that ends without an error and without a blocked action settles everything if and only
if, while the daemon runs, no workspace takes over the name of an orchestrator that is dropped. -/
theorem reconcile_converges_iff (hexec : Consistent exec live) (hfiles : StoresDocuments exec)
    (hdesired : desired.WellFormed host) {previous : RuntimeState}
    (hprevious : RuntimeState.ofRead (reconcileStatePath r.configPath)
      (exec (.readJson (reconcileStatePath r.configPath)) s).1 = .ok previous)
    {report : ReconcileReport}
    (h : Runs exec (r.reconcileDesiredState host desired opts) s (.ok report) t l)
    (hunblocked : ∀ action ∈ report.actions, ∀ change, action.operation ≠ .blocked change) :
    Converged exec live r host desired opts previous s t l ↔
      (opts.daemonRunning = true → ∀ name, name ∈ previous.orchestrators →
        name ∈ desired.workspaces → name ∈ desired.orchestrators) := by
  obtain ⟨pass, s₁, s₂, s₃, l₁, l₂, l₃, l₄, loops, rfl, hsetup, rfl, rfl, hload, hsnapshots,
    hsave, rfl, rfl⟩ := runs_reconcileDesiredState h
  obtain ⟨hloaded, -, -⟩ := runs_loadRuntimeState hload
  obtain rfl := Except.ok.inj (hprevious.symm.trans hloaded)
  have hlive₁ := hexec.live_of_quiet (uses_loadRuntimeState _) hload
  obtain ⟨hlive₂, hsessions⟩ := runs_loadSessionSnapshots hexec.toAgrees
    (nodup_desiredSessionNames _ _) hsnapshots
  have hsaved := hexec.live_of_quiet (uses_saveRuntimeState _ _) hsave
  have hfree := Pass.Visits.unblocked_of_report hunblocked
  have hrecorded := ofRead_of_saveRuntimeState hfiles hsave
  rw [loops.next_eq hexec hdesired hfree] at hrecorded
  constructor
  · intro hconverged hdaemon name hprev hname
    by_contra hdropped
    have hrunning := hconverged.running hdaemon name (.inl hname)
    rw [hsaved, loops.live_eq_none_of_droppedOrchestrator hexec hfree hprev hdropped] at hrunning
    cases hrunning
  intro hkinds
  have hrunning : pass.opts.daemonRunning = true → ∀ name, pass.desired.HasSession name →
      (live t)[name]?.isSome := by
    intro hdaemon name hname
    rw [hsaved]
    refine loops.live_isSome hexec hdesired hfree hdaemon ?_ (hkinds hdaemon name) hname
    rw [Pass.exists_session (hsessions name (hname.mem_names _)), hlive₂]
  refine ⟨hrecorded, hrunning, fun name hdrops hlive => ?_, fun name hdrops hnot => ?_, ?_⟩
  · rw [← hlive₁, ← hlive₂] at hlive
    simp [loops.destroySession_mem hexec hfree hdrops hlive]
  · rw [hsaved]
    exact loops.live_eq_none hexec hdesired hfree hdrops hnot
  · intro result u l' hrun
    exact reconcile_settled hexec.toAgrees hdesired hrecorded hrunning hrun

end Passes

/-- The first pass over one workspace. -/
theorem reconcile_converges_fresh :
    let r : Reconciler := ⟨"/run/ax.sock", "/p/.ax/config.yaml", "/bin/ax"⟩
    let m := Machine.idleSince ∅
    let p := r.reconcileDesiredState .plain (.only "w" "/w") ⟨true, true⟩
    (p.run.run Machine.exec m).1 = .ok { actions := [⟨.workspace, "w", .done .create,
        "generated artifacts refreshed and session started"⟩] } ∧
      Converged Machine.exec Machine.sessions r .plain (.only "w" "/w") ⟨true, true⟩ .new m
        (p.run.run Machine.exec m).2 (p.run.commands Machine.exec m) := by
  intro r m p
  have hresult : (p.run.run Machine.exec m).1 = .ok { actions := [⟨.workspace, "w",
      .done .create, "generated artifacts refreshed and session started"⟩] } := by
    decide +kernel
  refine ⟨hresult, (reconcile_converges_iff Machine.consistent_exec Machine.storesDocuments_exec
    (DesiredState.wellFormed_only _ _ _) (by decide +kernel) (Prog.runs_of_fst hresult)
    (by simp)).mpr ?_⟩
  intro _ name hname
  simp [RuntimeState.new] at hname

def Machine.recording (configPath : String) (state : RuntimeState)
    (sessions : BTreeMap String Flags) : Machine :=
  (exec (.writeJson (reconcileStatePath configPath) (RuntimeState.codec.encode state))
    (idleSince sessions)).2

lemma Machine.ofRead_recording (configPath : String) (state : RuntimeState)
    (sessions : BTreeMap String Flags) :
    RuntimeState.ofRead (reconcileStatePath configPath)
      (exec (.readJson (reconcileStatePath configPath)) (recording configPath state sessions)).1 =
        .ok state := by
  rw [recording, storesDocuments_exec _ _ _ rfl]
  exact RuntimeState.ofRead_encode _ state

/-- The state file of an orchestrator of a project `a`. -/
def RuntimeState.withOrchestrator : RuntimeState :=
  { RuntimeState.new with
    socketPath := "/run/ax.sock"
    configPath := "/p/.ax/config.yaml"
    orchestrators := (∅ : BTreeMap String OrchestratorState).insert "a.orchestrator"
      ⟨"a.orchestrator", "/p/a/.ax/orchestrator-a", "claude", "orchestrator", "", true, false⟩ }

/-- The project is gone and a workspace has the name of its orchestrator: the pass starts the
workspace and then stops it, and the next pass starts it again. -/
theorem reconcile_diverges_takenName :
    let r : Reconciler := ⟨"/run/ax.sock", "/p/.ax/config.yaml", "/bin/ax"⟩
    let path := reconcileStatePath r.configPath
    let m := Machine.recording r.configPath RuntimeState.withOrchestrator ∅
    let p := r.reconcileDesiredState .plain (.only "a.orchestrator" "/p/w") ⟨true, true⟩
    let m' := (p.run.run Machine.exec m).2
    RuntimeState.ofRead path (Machine.exec (.readJson path) m).1 =
        .ok RuntimeState.withOrchestrator ∧
      (p.run.run Machine.exec m).1 = .ok { actions :=
        [⟨.workspace, "a.orchestrator", .done .create,
          "generated artifacts refreshed and session started"⟩,
        ⟨.orchestrator, "a.orchestrator", .done .remove, "generated artifacts cleaned up"⟩] } ∧
      m'.sessions["a.orchestrator"]? = none ∧
      (p.run.run Machine.exec m').1 = .ok { actions :=
        [⟨.workspace, "a.orchestrator", .done .create,
          "session was missing and has been started"⟩] } := by
  decide +kernel

end Ax.Workspaces
