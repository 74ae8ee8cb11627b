import Ax.Daemon.TaskStore.Claims

/-!
# The audit trail of a task

Whatever is done to a task, its log and its list of children only grow, its
counters never go back, and what the task is about stays as it was created.
This also holds of the indirect writes, which a child makes to its parent.

Main results:

- Theorem `audit_trail`: so does every run of the store.
-/

namespace Ax.Daemon

open TaskStore

def identity (t : Task) :
    String × String × String × String × String × String × String × Timestamp :=
  (t.id, t.title, t.description, t.assignee, t.createdBy, t.parentTaskId, t.dispatchMessage,
    t.createdAt)

/-- The later record `t'` adds to the trail of `t` and rewrites nothing of it. -/
structure AppendOnly (t t' : Task) : Prop where
  logs : t.logs <+: t'.logs
  children : t.childTaskIds <+: t'.childTaskIds
  dispatches : t.dispatchCount ≤ t'.dispatchCount
  attempts : t.attemptCount ≤ t'.attemptCount
  about : identity t' = identity t

/-! ## Log lines -/

lemma logs_applyUpdate (u : Unicode) (now : Timestamp) (a : UpdateArgs) (task : Task) :
    task.logs <+: (applyUpdate u now a task).1.logs := by
  have hclaim : (claimForUpdate now a task).1.logs = task.logs := by
    unfold claimForUpdate markTaskClaimed
    split
    · rfl
    · split
      · split <;> rfl
      · rfl
  have hstatus : ∀ t, (applyStatus a t).1.logs = t.logs := by
    intro t
    unfold applyStatus clearTaskRetryState
    split
    · rfl
    · dsimp only
      split
      · split <;> rfl
      · rfl
  have hresult : ∀ t, (applyResult a t).1.logs = t.logs := by
    intro t
    unfold applyResult
    split <;> rfl
  have hlog : ∀ t, t.logs <+: (applyLog u now a t).1.logs := by
    intro t
    unfold applyLog
    split
    · exact List.prefix_rfl
    · split
      · exact List.prefix_rfl
      · exact List.prefix_append _ _
  have hhint : ∀ t, t.logs <+: (applyEvidenceHint u now task.status t).1.logs := by
    intro t
    unfold applyEvidenceHint
    split
    · exact List.prefix_append _ _
    · exact List.prefix_rfl
  calc task.logs
      = (applyResult a (applyStatus a (claimForUpdate now a task).1).1).1.logs := by
        rw [hresult, hstatus, hclaim]
    _ <+: _ := (hlog _).trans (hhint _)

lemma logs_cancelRecord (now : Timestamp) (reason workspace : String) (task : Task) :
    task.logs <+: (cancelRecord now reason workspace task).logs := by
  have hclaim : (if workspace = task.assignee then
      (markTaskClaimed task workspace "cancel" now).1 else task).logs = task.logs := by
    unfold markTaskClaimed
    split
    · split <;> rfl
    · rfl
  refine List.IsPrefix.trans ?_ (List.prefix_append _ _)
  rw [hclaim]

lemma logs_retryRecord (now : Timestamp) (note workspace : String) (task : Task) :
    task.logs <+: (retryRecord now note workspace task).logs := by
  unfold retryRecord clearTaskRetryState
  dsimp only
  split <;> exact List.prefix_append _ _

lemma logs_recoverRecord (u : Unicode) (now : Timestamp) (task : Task) :
    task.logs <+: (recoverRecord u now task).logs := by
  unfold recoverRecord clearTaskRetryState
  dsimp only
  split <;> exact List.prefix_append _ _

lemma logs_refreshRollup (all : TaskMap) (parent : Task) (now : Timestamp) :
    parent.logs <+: (refreshRollup all parent now).logs := by
  unfold refreshRollup writeRollup
  cases summarizeTaskRollup parent all with
  | none => dsimp only; split <;> exact List.prefix_rfl
  | some r =>
    dsimp only
    split <;> dsimp only <;> split <;>
      first | exact List.prefix_rfl | exact List.prefix_append _ _

/-! ## Records and runs -/

lemma AppendOnly.touch {c : StoreCall} {t t' : Task} (h : Touch c t t') : AppendOnly t t' := by
  refine ⟨?_, ?_, ?_, ?_, ?_⟩
  · cases h with
    | updated => exact logs_applyUpdate _ _ _ t
    | cancelled => exact logs_cancelRecord _ _ _ t
    | removed => exact List.prefix_rfl
    | retried => exact logs_retryRecord _ _ _ t
    | recovered => exact logs_recoverRecord _ _ t
    | dispatched => exact List.prefix_rfl
    | active => exact List.prefix_rfl
  · rw [h.childTaskIds_eq]
  · rcases h.frame_cases with hframe | ⟨_, _, rfl⟩ | ⟨_, _, _, rfl⟩ | ⟨_, rfl⟩
    · have heq := congrArg Task.dispatchCount hframe
      exact le_of_eq heq.symm
    · exact le_rfl
    · exact Int.le_add_one le_rfl
    · exact le_rfl
  · rcases h.claim_cases with ⟨_, hclaim⟩ | ⟨_, hkept | ⟨_, _, hclaim⟩⟩
    all_goals simp only [claim, Prod.mk.injEq] at *
    all_goals omega
  · have heq := congrArg identity h.fixedPart_eq
    exact heq

lemma appendOnly_recordRelation : RecordRelation AppendOnly where
  refl t := ⟨List.prefix_rfl, List.prefix_rfl, le_rfl, le_rfl, rfl⟩
  trans _ _ _ h₁ h₂ := ⟨h₁.logs.trans h₂.logs, h₁.children.trans h₂.children,
    h₁.dispatches.trans h₂.dispatches, h₁.attempts.trans h₂.attempts,
    h₂.about.trans h₁.about⟩
  touch := AppendOnly.touch
  refresh all parent now _ := by
    have hlogs := logs_refreshRollup all parent now
    rw [refreshRollup_frame]
    exact ⟨hlogs, List.prefix_rfl, le_rfl, le_rfl, rfl⟩
  adopt now parent childId _ := by
    unfold adoptChild
    split
    · exact ⟨List.prefix_rfl, List.prefix_rfl, le_rfl, le_rfl, rfl⟩
    · exact ⟨List.prefix_rfl, List.prefix_append _ _, le_rfl, le_rfl, rfl⟩

/-- Over any sequence of calls, from any store, a task stays stored, its log and its
child list are extended, its counters do not go back, and what it is about does not
change. -/
theorem audit_trail {s s' : TaskStore} {calls : List StoreCall}
    (hrun : Exec StoreStep s calls s') {id : String} {t : Task} (hget : s.inner.get id = some t) :
    ∃ t', s'.inner.get id = some t' ∧
      t.logs <+: t'.logs ∧ t.childTaskIds <+: t'.childTaskIds ∧
      t.dispatchCount ≤ t'.dispatchCount ∧ t.attemptCount ≤ t'.attemptCount ∧
      t'.id = t.id ∧ t'.title = t.title ∧ t'.description = t.description ∧
      t'.assignee = t.assignee ∧ t'.createdBy = t.createdBy ∧
      t'.parentTaskId = t.parentTaskId ∧ t'.dispatchMessage = t.dispatchMessage ∧
      t'.createdAt = t.createdAt := by
  obtain ⟨t', hget', h⟩ := appendOnly_recordRelation.storeRun hrun id t hget
  have hidentity := h.about
  simp only [identity, Prod.mk.injEq] at hidentity
  exact ⟨t', hget', h.logs, h.children, h.dispatches, h.attempts, hidentity⟩

/-- The theorem at a dispatched task that is claimed with a log line. -/
theorem audit_trail_example :
    ∃ t t', (ownedTask [callAt 1 (.recordDispatch "a" "worker" 1)]).inner.get "a" = some t ∧
      (applyAll (ownedTask [callAt 1 (.recordDispatch "a" "worker" 1)])
        [callAt 2 (.updateWithConfirm "a" ⟨none, none, some "on it", none, "worker"⟩)]).inner.get
          "a" = some t' ∧
      t.logs <+: t'.logs ∧ t.logs ≠ t'.logs ∧ t.dispatchCount ≤ t'.dispatchCount ∧
      t'.createdBy = t.createdBy := by
  let s := ownedTask [callAt 1 (.recordDispatch "a" "worker" 1)]
  have hget : s.inner.get "a" = some _ := (Option.some_get (by decide +kernel)).symm
  have hrun : Exec StoreStep s
      [callAt 2 (.updateWithConfirm "a" ⟨none, none, some "on it", none, "worker"⟩)] _ :=
    exec_applyAll (by decide +kernel)
  obtain ⟨t', hget', hlogs, _, hdispatches, _, _, _, _, _, hcreator, _⟩ := audit_trail hrun hget
  refine ⟨_, t', hget, hget', hlogs, ?_, hdispatches, hcreator⟩
  obtain rfl := Option.some.inj (hget'.symm.trans (Option.some_get (by decide +kernel)).symm)
  decide +kernel

end Ax.Daemon
