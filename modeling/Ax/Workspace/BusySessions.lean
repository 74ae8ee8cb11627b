import Ax.Workspace.Loops
import Ax.Workspace.Machine

/-!
# Busy sessions during a pass

A pass that reconciles agents with the configuration reads the sessions once, at its start, and
each of its four loops asks that snapshot before it stops anything.

Main results:

- Theorem `busy_sessions_undisturbed`: a pass stops no session that was attached or not idle at
  its start, and if disruptive changes are not allowed it stops none that existed.
-/

namespace Ax.Workspaces

open Fallible

variable {σ : Type} {exec : Exec σ} {live : σ → BTreeMap String Flags} {s t : σ} {l : List Cmd}

lemma blockReason_snapshot {opts : ReconcileOptions} {flags : Flags}
    (hbusy : flags.attached = true ∨ flags.idle = false ∨ opts.allowDisruptiveChanges = false) :
    blockReason opts flags.snapshot ≠ none := by
  cases hallow : opts.allowDisruptiveChanges <;> cases hattached : flags.attached <;>
    cases hidle : flags.idle <;>
    simp_all [blockReason, Flags.snapshot, disruptionBlockReason]

lemma creates_of_reconcile (hexec : Agrees exec live) {r : Reconciler} {host : Host}
    {desired : DesiredState} {opts : ReconcileOptions}
    {result : Except ReconcileError ReconcileReport}
    (h : Runs exec (r.reconcileDesiredState host desired opts) s result t l) {w : String}
    {flags : Flags} (hw : (live s)[w]? = some flags)
    (hbusy : flags.attached = true ∨ flags.idle = false ∨ opts.allowDisruptiveChanges = false) :
    ∀ c ∈ l, c.session? = some w → c.creates? = some w := by
  have hquiet : ∀ {α : Type} {p : Action ReconcileError α} {u x v l}, Uses Cmd.Quiet p →
      Runs exec p u x v l → ∀ c ∈ l, c.session? = some w → c.creates? = some w :=
    fun hp hrun c hc hsession => by cases (hp.runs hrun c hc).symm.trans hsession
  refine forall_commands_of_bind h (fun _ _ _ => hquiet (uses_loadRuntimeState _)) ?_
  intro previous s₁ l₁ l₂ hload h₁
  have hlive₁ := hexec.live_of_quiet (uses_loadRuntimeState _) hload
  refine forall_commands_of_bind h₁ (fun _ _ _ => hquiet (uses_loadSessionSnapshots _)) ?_
  intro sessions s₂ l₃ l₄ hsnapshots h₂
  obtain ⟨-, hsessions⟩ := runs_loadSessionSnapshots hexec (nodup_desiredSessionNames _ _)
    hsnapshots
  refine forall_commands_of_bind h₂ ?_ ?_
  · intro x u l₅ hvisits c hc hsession
    by_contra hcreates
    obtain ⟨hname, hfree, -⟩ := ((Pass.uses_visitAll _).runs hvisits c hc).stops hsession hcreates
    refine blockReason_snapshot hbusy ?_
    rw [Pass.blocked, Pass.session, hsessions w hname, hlive₁, hw] at hfree
    exact hfree
  · intro visits u l₅ l₆ _ h₃
    refine forall_commands_of_bind h₃ (fun _ _ _ => hquiet (uses_saveRuntimeState _ _)) ?_
    intro _ v l₇ l₈ _ h₄
    exact hquiet (uses_pure _) h₄

/-- A pass stops no session that was attached or not idle at its start, and none that existed if
disruptive changes are not allowed; such a session stays as it is throughout the pass. -/
theorem busy_sessions_undisturbed (hexec : Agrees exec live) {r : Reconciler} {host : Host}
    {desired : DesiredState} {opts : ReconcileOptions}
    {result : Except ReconcileError ReconcileReport}
    (h : Runs exec (r.reconcileDesiredState host desired opts) s result t l) {w : String}
    {flags : Flags} (hw : (live s)[w]? = some flags)
    (hbusy : flags.attached = true ∨ flags.idle = false ∨ opts.allowDisruptiveChanges = false) :
    Cmd.destroySession w ∉ l ∧
      ∀ u ∈ (r.reconcileDesiredState host desired opts).run.passed exec s,
        (live u)[w]? = some flags := by
  have hcreates := creates_of_reconcile hexec h hw hbusy
  constructor
  · intro hmem
    cases hcreates _ hmem rfl
  · exact hexec.kept_of_commands hw (h.commands_eq ▸ hcreates)

/-- The session of a workspace that should be started anew is attached. -/
theorem busy_sessions_undisturbed_attached :
    let m := Machine.idleSince ((∅ : BTreeMap String Flags).insert "w" ⟨true, true⟩)
    let p := Reconciler.reconcileDesiredState ⟨"/run/ax.sock", "/p/.ax/config.yaml", "/bin/ax"⟩
      .plain (.only "w" "/w") ⟨true, true⟩
    (p.run.run Machine.exec m).1 = .ok { actions :=
        [⟨.workspace, "w", .blocked .create, "tmux session is attached"⟩] } ∧
      Cmd.destroySession "w" ∉ p.run.commands Machine.exec m ∧
      ∀ u ∈ p.run.passed Machine.exec m, u.sessions["w"]? = some ⟨true, true⟩ := by
  refine ⟨by decide +kernel, ?_⟩
  exact busy_sessions_undisturbed Machine.consistent_exec.toAgrees (Prog.runs_run _ _)
    (by decide +kernel) (.inl rfl)

end Ax.Workspaces
