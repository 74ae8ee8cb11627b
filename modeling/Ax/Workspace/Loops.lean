import Ax.Workspace.Passes

/-!
# Sessions along the loops of a pass

Each visit of a pass changes the session of its own name only.  So the session of a name is at
the end of a loop what the visit of that name has left, and that visit found it as it was when
the loop began.

Main results:

- Theorems `Agrees.visited_of_loop` and `Agrees.live_of_notMem`: the visit of a name within a
  loop, and the names that a loop does not visit.
- Theorems `unblocked_*`: the record and the session after a visit that was
  not blocked.
-/

namespace Ax.Workspaces

open Prog (within whenever)
open Fallible

def OnlyAt (name : String) (c : Cmd) : Prop :=
  ∀ w, c.session? = some w → w = name

section Loop

variable {σ : Type} {exec : Exec σ} {live : σ → BTreeMap String Flags} {s t u : σ}
  {l : List Cmd} {ε α κ β : Type} {w : String}

lemma Agrees.kept_of_commands (hexec : Agrees exec live) {α : Type} {p : Prog Cmd.Answer α}
    {flags : Flags} (hw : (live s)[w]? = some flags)
    (hl : ∀ c ∈ p.commands exec s, c.session? = some w → c.creates? = some w) :
    ∀ u ∈ p.passed exec s, (live u)[w]? = some flags := by
  induction p generalizing s with
  | ret a => simpa [Prog.passed] using hw
  | act c k ih =>
    obtain ⟨hc, hrest⟩ := List.forall_mem_cons.mp hl
    have hnext : (live (exec c s).2)[w]? = some flags := by
      by_cases hsession : c.session? = some w
      · obtain ⟨dir, launch, env, rfl⟩ := Cmd.eq_of_creates? (hc hsession)
        exact hexec.kept w dir launch env s flags hw
      · rw [hexec.elsewhere c s w hsession, hw]
    intro u hu
    rcases List.mem_cons.mp hu with rfl | hu
    · exact hw
    · exact ih _ hnext hrest u hu

lemma Agrees.kept_of_runs (hexec : Agrees exec live) {α : Type} {p : Prog Cmd.Answer α} {a : α}
    (h : Prog.Runs exec p s a t l) {flags : Flags} (hw : (live s)[w]? = some flags)
    (hl : ∀ c ∈ l, c.session? = some w → c.creates? = some w) : (live t)[w]? = some flags :=
  hexec.kept_of_commands hw (h.commands_eq ▸ hl) t h.mem_passed

/-- A session that is not started stays away. -/
theorem Consistent.none_of_runs (hexec : Consistent exec live) {p : Action ε α} {r : Except ε α}
    (hp : Uses (fun c => c.creates? ≠ some w) p) (h : Runs exec p s r t l)
    (hs : (live s)[w]? = none) : (live t)[w]? = none := by
  refine hp.invariant (I := fun u => (live u)[w]? = none) (fun c u hc hu => ?_) h hs
  by_cases hw : c.session? = some w
  · cases c with
    | createSession name dir launch env => exact absurd hw hc
    | destroySession name =>
      obtain rfl := Option.some.inj hw
      exact hexec.notRevived name u hu
    | wakeWorkspace name prompt =>
      obtain rfl := Option.some.inj hw
      rw [← Option.not_isSome_iff_eq_none, hexec.woken, hu]
      exact Bool.false_ne_true
    | _ => cases hw
  · rw [hexec.elsewhere c u w hw, hu]

lemma Agrees.live_of_onlyAt (hexec : Agrees exec live) {p : Action ε α} {r : Except ε α}
    {name : String} (hp : Uses (OnlyAt name) p) (h : Runs exec p s r t l) (hw : w ≠ name) :
    (live t)[w]? = (live s)[w]? :=
  hp.invariant (I := fun u => (live u)[w]? = (live s)[w]?)
    (fun c u hc hu => (hexec.elsewhere c u w fun hsession => hw (hc w hsession)).trans hu) h rfl

lemma Agrees.live_of_notMem (hexec : Agrees exec live) {key : κ → String} {f : κ → Action ε β}
    {xs : List κ} {ys : List (κ × β)} (honly : ∀ x ∈ xs, Uses (OnlyAt (key x)) (f x))
    (h : Runs exec (Fallible.traverse f xs) s (.ok ys) u l) (hw : w ∉ xs.map key) :
    (live u)[w]? = (live s)[w]? := by
  refine (forall_of_traverse (I := fun v => (live v)[w]? = (live s)[w]?)
    (P := fun _ _ => True) (fun x hx v y v' l' hv hrun => ⟨?_, trivial⟩) h rfl).1
  have hne : w ≠ key x := fun heq => hw (heq ▸ List.mem_map_of_mem hx)
  exact (hexec.live_of_onlyAt (honly x hx) hrun hne).trans hv

structure Visited (exec : Exec σ) (live : σ → BTreeMap String Flags) (name : String)
    (p : Action ε β) (s u : σ) (l : List Cmd) (y : β) where
  (before after : σ)
  commands : List Cmd
  runs : Runs exec p before (.ok y) after commands
  found : (live before)[name]? = (live s)[name]?
  left : (live u)[name]? = (live after)[name]?
  sublist : commands.Sublist l

lemma Agrees.visited_of_loop (hexec : Agrees exec live) {key : κ → String}
    {f : κ → Action ε β} {xs : List κ} {ys : List (κ × β)} (hnodup : (xs.map key).Nodup)
    (honly : ∀ x ∈ xs, Uses (OnlyAt (key x)) (f x))
    (h : Runs exec (Fallible.traverse f xs) s (.ok ys) u l) {x : κ} (hx : x ∈ xs) :
    ∃ y, (x, y) ∈ ys ∧ Nonempty (Visited exec live (key x) (f x) s u l y) := by
  obtain ⟨pre, post, zs, y, zs', v, w, l₁, l₂, l₃, rfl, hpre, hmid, hpost, rfl, rfl⟩ :=
    runs_traverse_mem h hx
  rw [List.map_append, List.map_cons, List.nodup_append] at hnodup
  obtain ⟨-, hcons, hdisjoint⟩ := hnodup
  have hbefore : key x ∉ pre.map key := fun hmem =>
    hdisjoint _ hmem _ List.mem_cons_self rfl
  refine ⟨y, by simp, ⟨v, w, l₂, hmid, ?_, ?_, by simp⟩⟩
  · exact hexec.live_of_notMem (fun x hx => honly x (List.mem_append_left _ hx)) hpre hbefore
  · exact hexec.live_of_notMem
      (fun x hx => honly x (List.mem_append_right _ (List.mem_cons_of_mem _ hx))) hpost
      (List.nodup_cons.mp hcons).1

end Loop

namespace Pass

variable {pass : Pass} {name : String}

lemma onlyAt_visitWorkspace (entry : DesiredWorkspace) :
    Uses (OnlyAt name) (pass.visitWorkspace name entry) := by
  refine (pass.uses_visitWorkspace name entry).mono fun c hc w hw => ?_
  rcases hc with hc | hc
  · exact (hc.creates (fun _ => OnFilesOf.quiet) hw).2.2
  · exact (hc.stops (fun _ => OnFilesOf.quiet) hw).1

lemma onlyAt_dropWorkspace (prev : WorkspaceState) :
    Uses (OnlyAt name) (pass.dropWorkspace name prev) :=
  (pass.uses_dropWorkspace name prev).mono fun _ hc _ hw =>
    (hc.stops (fun _ => OnFilesOf.quiet) hw).1

lemma onlyAt_visitOrchestrator {entry : DesiredOrchestrator}
    (hentry : entry.WellFormed pass.host name) :
    Uses (OnlyAt name) (pass.visitOrchestrator name entry) := by
  refine (pass.uses_visitOrchestrator name entry).mono fun c hc w hw => ?_
  rcases hc with hc | hc
  · exact (hc.creates (fun _ => OnFilesOfNode.quiet) hw).2.2.trans hentry.node_name
  · exact (hc.stops (fun _ => OnOrchestratorFilesOf.quiet) hw).1

lemma onlyAt_dropOrchestrator (prev : OrchestratorState) :
    Uses (OnlyAt name) (pass.dropOrchestrator name prev) :=
  (pass.uses_dropOrchestrator name prev).mono fun _ hc _ hw =>
    (hc.stops (fun _ => OnOrchestratorFilesOf.quiet) hw).1

end Pass

/-! ## The visits of the four loops -/

namespace Pass

variable {pass : Pass} {name : String}

namespace Loops

variable {σ : Type} {exec : Exec σ} {live : σ → BTreeMap String Flags} {s t : σ} {l : List Cmd}

lemma map_fst_named {α ρ : Type} (results : List ((String × α) × Visit ρ)) :
    (named results).map Prod.fst = (results.map Prod.fst).map Prod.fst := by
  simp [named, Function.comp_def]

variable (loops : pass.Loops exec s t l)

lemma nodup_workspaces : (loops.visits.workspaces.map Prod.fst).Nodup := by
  rw [visits, List.map_append, map_fst_named, map_fst_named, map_fst_of_traverse loops.runs₁,
    map_fst_of_traverse loops.runs₂]
  exact BTreeMap.nodup_keys_append _ _

lemma nodup_orchestrators : (loops.visits.orchestrators.map Prod.fst).Nodup := by
  rw [visits, List.map_append, map_fst_named, map_fst_named, map_fst_of_traverse loops.runs₃,
    map_fst_of_traverse loops.runs₄]
  exact BTreeMap.nodup_keys_append _ _

lemma sublist_commands : (loops.l₁ ++ loops.l₂ ++ loops.l₃ ++ loops.l₄).Sublist l := by
  simp only [List.append_assoc]
  rw [← loops.commands_eq]

lemma mem_actions {action : ReconcileAction}
    (h : (∃ visit ∈ loops.visits.workspaces, Note.action action ∈ visit.2.notes) ∨
      ∃ visit ∈ loops.visits.orchestrators, Note.action action ∈ visit.2.notes) :
    action ∈ loops.visits.report.actions := by
  rw [Visits.report, ReconcileReport.mem_actions_ofNotes, List.mem_append, List.mem_flatMap,
    List.mem_flatMap]
  exact h

variable (hexec : Agrees exec live)
include hexec

lemma visited_workspace {entry : DesiredWorkspace}
    (h : pass.desired.workspaces[name]? = some entry) :
    ∃ visit, (name, visit) ∈ loops.visits.workspaces ∧
      Nonempty (Visited exec live name (pass.visitWorkspace name entry) s loops.s₁ loops.l₁
        visit) := by
  obtain ⟨visit, hmem, hvisited⟩ := hexec.visited_of_loop (BTreeMap.nodup_map_fst_toList _)
    (fun entry _ => onlyAt_visitWorkspace entry.2) loops.runs₁
    (Std.ExtTreeMap.mem_toList_iff_getElem?_eq_some.mpr h)
  exact ⟨visit, List.mem_append_left _ (List.mem_map_of_mem hmem), hvisited⟩

lemma visited_droppedWorkspace (loops : pass.Loops exec s t l) {prev : WorkspaceState}
    (h : (name, prev) ∈ pass.droppedWorkspaces) :
    ∃ visit, (name, visit) ∈ loops.visits.workspaces ∧
      Nonempty (Visited exec live name (pass.dropWorkspace name prev) loops.s₁ loops.s₂ loops.l₂
        visit) := by
  obtain ⟨visit, hmem, hvisited⟩ := hexec.visited_of_loop (BTreeMap.nodup_map_fst_filter _ _)
    (fun entry _ => onlyAt_dropWorkspace entry.2) loops.runs₂ h
  exact ⟨visit, List.mem_append_right _ (List.mem_map_of_mem hmem), hvisited⟩

lemma visited_orchestrator (hdesired : pass.desired.WellFormed pass.host)
    {entry : DesiredOrchestrator} (h : pass.desired.orchestrators[name]? = some entry) :
    ∃ visit, (name, visit) ∈ loops.visits.orchestrators ∧
      Nonempty (Visited exec live name (pass.visitOrchestrator name entry) loops.s₂ loops.s₃
        loops.l₃ visit) := by
  obtain ⟨visit, hmem, hvisited⟩ := hexec.visited_of_loop (BTreeMap.nodup_map_fst_toList _)
    (fun entry hentry => onlyAt_visitOrchestrator (hdesired.orchestrators _ _
      (Std.ExtTreeMap.mem_toList_iff_getElem?_eq_some.mp hentry))) loops.runs₃
    (Std.ExtTreeMap.mem_toList_iff_getElem?_eq_some.mpr h)
  exact ⟨visit, List.mem_append_left _ (List.mem_map_of_mem hmem), hvisited⟩

lemma visited_droppedOrchestrator {prev : OrchestratorState}
    (h : (name, prev) ∈ pass.droppedOrchestrators) :
    ∃ visit, (name, visit) ∈ loops.visits.orchestrators ∧
      Nonempty (Visited exec live name (pass.dropOrchestrator name prev) loops.s₃ t loops.l₄
        visit) := by
  obtain ⟨visit, hmem, hvisited⟩ := hexec.visited_of_loop (BTreeMap.nodup_map_fst_filter _ _)
    (fun entry _ => onlyAt_dropOrchestrator entry.2) loops.runs₄ h
  exact ⟨visit, List.mem_append_right _ (List.mem_map_of_mem hmem), hvisited⟩

lemma live₂_eq (h : name ∈ pass.previous.workspaces → name ∈ pass.desired.workspaces) :
    (live loops.s₂)[name]? = (live loops.s₁)[name]? := by
  refine hexec.live_of_notMem (fun entry _ => onlyAt_dropWorkspace entry.2) loops.runs₂ ?_
  rw [droppedWorkspaces, BTreeMap.mem_map_filter_notContains]
  exact fun hmem => hmem.2 (h hmem.1)

lemma live₃_eq (hdesired : pass.desired.WellFormed pass.host)
    (h : name ∉ pass.desired.orchestrators) : (live loops.s₃)[name]? = (live loops.s₂)[name]? := by
  refine hexec.live_of_notMem (fun entry hentry => onlyAt_visitOrchestrator
    (hdesired.orchestrators _ _ (Std.ExtTreeMap.mem_toList_iff_getElem?_eq_some.mp hentry)))
    loops.runs₃ ?_
  rwa [Std.ExtTreeMap.map_fst_toList_eq_keys, Std.ExtTreeMap.mem_keys]

lemma live₄_eq (h : name ∈ pass.previous.orchestrators → name ∈ pass.desired.orchestrators) :
    (live t)[name]? = (live loops.s₃)[name]? := by
  refine hexec.live_of_notMem (fun entry _ => onlyAt_dropOrchestrator entry.2) loops.runs₄ ?_
  rw [droppedOrchestrators, BTreeMap.mem_map_filter_notContains]
  exact fun hmem => hmem.2 (h hmem.1)

variable {flags : Flags}

lemma kept (loops : pass.Loops exec s t l) {α : Type} {p : Prog Cmd.Answer α} {u v : σ} {a : α}
    {part : List Cmd} (hrun : Prog.Runs exec p u a v part) (hpart : ∀ c ∈ part, c ∈ l)
    (hnot : Cmd.destroySession name ∉ part) (h : (live u)[name]? = some flags) :
    (live v)[name]? = some flags := by
  refine hexec.kept_of_runs hrun h fun c hc hsession => ?_
  by_contra hcreates
  have hcmd := (pass.uses_visitAll).runs loops.runs c (hpart c hc)
  exact hnot ((hcmd.stops hsession hcreates).2.2 ▸ hc)

variable (h : (live s)[name]? = some flags)
include h

lemma kept₁ (hnot : Cmd.destroySession name ∉ loops.l₁) : (live loops.s₁)[name]? = some flags :=
  loops.kept hexec loops.runs₁ (fun _ hc => loops.sublist_commands.subset (by simp [hc])) hnot h

lemma kept₂ (hnot : Cmd.destroySession name ∉ loops.l₁ ++ loops.l₂) :
    (live loops.s₂)[name]? = some flags := by
  rw [List.mem_append, not_or] at hnot
  exact loops.kept hexec loops.runs₂ (fun _ hc => loops.sublist_commands.subset (by simp [hc]))
    hnot.2 (loops.kept₁ hexec h hnot.1)

lemma kept₃ (hnot : Cmd.destroySession name ∉ loops.l₁ ++ loops.l₂ ++ loops.l₃) :
    (live loops.s₃)[name]? = some flags := by
  rw [List.mem_append, not_or] at hnot
  exact loops.kept hexec loops.runs₃ (fun _ hc => loops.sublist_commands.subset (by simp [hc]))
    hnot.2 (loops.kept₂ hexec h hnot.1)

end Loops
end Pass

/-! ## Visits that are not blocked -/

def Visit.Unblocked {ρ : Type} (visit : Visit ρ) : Prop :=
  ∀ action change, Note.action action ∈ visit.notes → action.operation ≠ .blocked change

namespace Pass

variable {σ : Type} {exec : Exec σ} {live : σ → BTreeMap String Flags} {s t : σ} {l : List Cmd}
  {pass : Pass} {name : String}

variable (hexec : Consistent exec live)
include hexec

lemma isSome_of_create {start : Bool} {entry : DesiredWorkspace}
    (h : Runs exec (whenever start (within ReconcileError.workspace
      (Manager.create pass.host pass.setup name entry.workspace))) s (.ok ()) t l)
    (hlive : start = false → (live s)[name]?.isSome) : (live t)[name]?.isSome := by
  rcases runs_whenever.mp h with ⟨-, hcreate⟩ | ⟨hstart, -, rfl, -⟩
  · exact (live_of_createInner hexec (runs_within_ok.mp hcreate)).2.1.isSome
  · exact hlive hstart

/-- The record and the session of a workspace after a visit that was not blocked. -/
theorem unblocked_visitWorkspace {entry : DesiredWorkspace} {visit : Visit WorkspaceState}
    (h : Runs exec (pass.visitWorkspace name entry) s (.ok visit) t l)
    (hvisit : visit.Unblocked) :
    visit.record = some (desiredWorkspaceState entry pass.desired) ∧
      (pass.opts.daemonRunning = true →
        ((pass.session name).exists_ = true → (live s)[name]?.isSome) →
        (live t)[name]?.isSome) := by
  cases runs_visit h with
  | refreshed hmatches hrun =>
    obtain ⟨-, u, l₁, l₂, hensure, hcreate⟩ := runs_refreshWorkspace hrun
    refine ⟨rfl, fun hdaemon hexists => isSome_of_create hexec hcreate fun hstart => ?_⟩
    have hquiet := hexec.live_of_quiet
      ((uses_ensureArtifacts ..).mono fun _ => OnFilesOf.quiet) hensure
    rw [hquiet]
    exact hexists (by simpa [hdaemon] using hstart)
  | blocked => exact absurd rfl (hvisit _ _ (List.mem_singleton_self _))
  | redone hmatches hfree hrun =>
    obtain ⟨u, v, l₁, l₂, l₃, -, -, hcreate, -⟩ := runs_redoWorkspace hrun
    refine ⟨rfl, fun hdaemon _ => isSome_of_create hexec hcreate fun hstart => ?_⟩
    cases hdaemon.symm.trans hstart

lemma isSome_of_ensureEntry {entry : DesiredOrchestrator}
    (hentry : entry.WellFormed pass.host name) (hroot : entry.root = false)
    (hdaemon : pass.opts.daemonRunning = true)
    (h : Runs exec (pass.ensureEntry entry pass.opts.daemonRunning) s (.ok ()) t l) :
    (live t)[name]?.isSome := by
  have hroute : entry.node.prefix_ ≠ "" := by simpa [hroot] using hentry.root_eq
  have hlive := live_of_ensureOrchestrator hexec hentry.node_name (runs_within_ok.mp h)
  split at hlive
  · exact hlive.1.isSome
  · rename_i hnot
    rw [hlive.1]
    refine Option.isSome_iff_ne_none.mpr fun hnone => hnot ⟨?_, hnone⟩
    simp [hroute, hdaemon]

/-- The record and the session of an orchestrator after a visit that was not blocked. -/
theorem unblocked_visitOrchestrator {entry : DesiredOrchestrator}
    (hentry : entry.WellFormed pass.host name) {visit : Visit OrchestratorState}
    (h : Runs exec (pass.visitOrchestrator name entry) s (.ok visit) t l)
    (hvisit : visit.Unblocked) :
    visit.record = some (desiredOrchestratorState entry) ∧
      (entry.root = true → (live t)[name]? = (live s)[name]?) ∧
      (entry.root = false → pass.opts.daemonRunning = true → (live t)[name]?.isSome) := by
  rcases runs_visitOrchestrator h with ⟨hroot, hensure, rfl⟩ | ⟨hroot, houtcome⟩
  · refine ⟨rfl, fun _ => ?_, fun hnot => absurd (hnot.symm.trans hroot) (by decide)⟩
    have hlive := live_of_ensureOrchestrator hexec hentry.node_name (runs_within_ok.mp hensure)
    rw [if_neg (by simp)] at hlive
    rw [hlive.1]
  · have hstarted : visit.record = some (desiredOrchestratorState entry) ∧
        (pass.opts.daemonRunning = true → (live t)[name]?.isSome) := by
      cases houtcome with
      | refreshed hmatches hrun =>
        obtain ⟨_, hensure, -⟩ := runs_bind_pure.mp hrun
        exact ⟨rfl, fun hdaemon => isSome_of_ensureEntry hexec hentry hroot hdaemon hensure⟩
      | blocked => exact absurd rfl (hvisit _ _ (List.mem_singleton_self _))
      | redone hmatches hfree hrun =>
        obtain ⟨_, _, _, _, -, h₁, -⟩ := runs_bind_ok.mp hrun
        obtain ⟨_, hensure, -⟩ := runs_bind_pure.mp h₁
        exact ⟨rfl, fun hdaemon => isSome_of_ensureEntry hexec hentry hroot hdaemon hensure⟩
    exact ⟨hstarted.1, fun hnot => absurd (hnot.symm.trans hroot) (by decide), fun _ => hstarted.2⟩

omit hexec in
lemma unblocked_drop {ρ : Type} {kind : TargetKind} {prev : ρ}
    {cleanup : Action ReconcileError Unit} (hcleanup : Runs exec cleanup s (.ok ()) t l →
      live t = (live s).erase name ∧ ((live s)[name]?.isSome → Cmd.destroySession name ∈ l))
    {visit : Visit ρ} (h : Runs exec (pass.drop kind name prev cleanup) s (.ok visit) t l)
    (hvisit : visit.Unblocked) :
    visit.record = none ∧ (live t)[name]? = none ∧
      ((live s)[name]?.isSome → Cmd.destroySession name ∈ l) := by
  rcases runs_drop h with ⟨reason, rfl⟩ | ⟨hrun, rfl⟩
  · exact absurd rfl (hvisit _ _ (List.mem_singleton_self _))
  · obtain ⟨hlive, hdestroy⟩ := hcleanup hrun
    rw [hlive, BTreeMap.get?_erase, if_pos rfl]
    exact ⟨rfl, rfl, hdestroy⟩

/-- A dropped workspace is stopped and forgotten by a visit that was not blocked. -/
theorem unblocked_dropWorkspace {prev : WorkspaceState} {visit : Visit WorkspaceState}
    (h : Runs exec (pass.dropWorkspace name prev) s (.ok visit) t l) (hvisit : visit.Unblocked) :
    visit.record = none ∧ (live t)[name]? = none ∧
      ((live s)[name]?.isSome → Cmd.destroySession name ∈ l) :=
  unblocked_drop (fun h => live_of_cleanupWorkspaceState hexec (runs_within_ok.mp h)) h hvisit

/-- A dropped orchestrator is stopped and forgotten by a visit that was not blocked. -/
theorem unblocked_dropOrchestrator {prev : OrchestratorState} {visit : Visit OrchestratorState}
    (h : Runs exec (pass.dropOrchestrator name prev) s (.ok visit) t l) (hvisit : visit.Unblocked) :
    visit.record = none ∧ (live t)[name]? = none ∧
      ((live s)[name]?.isSome → Cmd.destroySession name ∈ l) :=
  unblocked_drop (fun h => live_of_cleanupOrchestratorState hexec (runs_within_ok.mp h)) h hvisit

end Pass

end Ax.Workspaces
