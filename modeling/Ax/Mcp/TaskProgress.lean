import Ax.Daemon.EndedTasks
import Ax.Daemon.FailedWrites

/-!
# Progress reports

The tool `report_task_progress` reads a task and sends an update with a log line, and with a
status only if the task is pending.  An update without a status passes the checks of the store
whatever the status of the task is, so reports about ended tasks are accepted from the assignee
and from the creator.

Main results:

- Theorem `progress_refused_iff`: which reports about an ended task are refused.
- Theorem `progress_accepted_cancelled`: one that is not.
-/

namespace Ax.Mcp

open Daemon

variable {u : Unicode} {workspace id note : String} {d : HandlerCtx} {task : Task}

def progressPayload (id note : String) (status : TaskStatus) : UpdateTaskPayload where
  id := id
  status := if status = .pending then some .inProgress else none
  result := none
  log := some (Text.trim note)
  confirm := none

/-- `report_task_progress`, as requests to the daemon one after the other. -/
def reportTaskProgress (u : Unicode) (workspace id note : String) : Handler :=
  if Text.trim note = "" then return .error "note is required"
  else do
    match ← handle u (.getTask id) with
    | .ok (.task task) => handle u (.updateTask workspace (progressPayload id note task.status))
    | .ok _ => return .error "unexpected response"
    | .error e => return .error e

structure Refused (d : HandlerCtx) (outcome : Except String Response × Sim) : Prop where
  failed : outcome.1.isOk = false
  tasks : outcome.2.ctx.taskStore.inner = d.taskStore.inner
  inboxes : outcome.2.ctx.queue = d.queue
  wakes : outcome.2.ctx.wakeScheduler = d.wakeScheduler

lemma status_progressPayload (id note : String) (hended : isTerminalStatus task.status = true) :
    (progressPayload id note task.status).status = none := by
  refine if_neg fun hpending => ?_
  rw [hpending] at hended
  cases hended

lemma validate_progress_iff (hended : isTerminalStatus task.status = true) :
    validateTaskUpdate task (updateArgs workspace (progressPayload id note task.status)) = .ok () ↔
      task.removedAt = none ∧ (workspace = task.assignee ∨ workspace = task.createdBy) := by
  rw [validateTaskUpdate_eq_ok_iff]
  constructor
  · intro h
    exact ⟨h.live, h.party⟩
  · rintro ⟨hlive, hparty⟩
    refine ⟨hlive, hparty, fun r hr => ?_, fun newStatus hnew => ?_⟩
    · cases hr
    · cases (status_progressPayload id note hended).symm.trans hnew

lemma update_of_valid {env : StoreEnv} {s : TaskStore} {a : UpdateArgs}
    (hget : s.inner.get id = some task) (hvalid : validateTaskUpdate task a = .ok ()) :
    (∃ answer, (s.updateWithConfirm env id a).1 = .ok answer) ∨
      ∃ e, (s.updateWithConfirm env id a).1 = .error e ∧ isCompletionRefusal e = false ∧
        (s.updateWithConfirm env id a).2.inner ≠ s.inner := by
  have hframe := updateFrame_applyUpdate env.unicode env.now a task
  unfold TaskStore.updateWithConfirm
  simp only [hget, hvalid]
  split
  · cases hcommit : (TaskStore.commit env s _ _).1 with
    | ok answer => exact .inl ⟨answer, rfl⟩
    | error e =>
      refine .inr ⟨e, rfl, ?_, ?_⟩
      · rcases TaskStore.commit_error hcommit with ⟨source, rfl⟩ | ⟨reason, rfl⟩
        · rfl
        · rfl
      · rw [TaskStore.commit_inner]
        obtain rfl := KeyedMap.key_of_get hget
        have hid : (bump env.now (applyUpdate env.unicode env.now a task).1).id = task.id :=
          (congrArg Task.id hframe :)
        have hversion : (bump env.now (applyUpdate env.unicode env.now a task).1).version =
            task.version + 1 := (congrArg Task.version hframe :)
        exact storeAndRefresh_ne (hid ▸ hget) (by omega) _
  · exact .inl ⟨task, rfl⟩

lemma run_afterUpdate (workspace : String) (task : Task) (s : Sim) :
    ((afterUpdate u workspace task).run (Sim.exec u) s).1 = .ok (.task task) := by
  unfold afterUpdate
  rw [Prog.run_bind, Prog.run_bind]
  rfl

lemma refused_iff_invalid (payload : UpdateTaskPayload) (s : Sim)
    (hget : s.ctx.taskStore.inner.get payload.id = some task) (hstatus : payload.status = none)
    (hreg : workspace ≠ "") :
    Refused s.ctx ((handleUpdateTask u workspace payload).run (Sim.exec u) s) ↔
      validateTaskUpdate task (updateArgs workspace payload) ≠ .ok () := by
  rw [run_handleUpdateTask hreg]
  cases hvalid : validateTaskUpdate task (updateArgs workspace payload) with
  | ok =>
    refine iff_of_false (fun hrefused => ?_) (by simp)
    obtain ⟨hfailed, htasks, -, -⟩ := hrefused
    rcases update_of_valid hget hvalid with ⟨answer, hok⟩ | ⟨e, herror, hother, hne⟩
    · rw [hok, settleUpdate, run_afterUpdate] at hfailed
      cases hfailed
    · rw [herror, settleUpdate, run_afterRefusal_of_not hother] at htasks
      exact hne htasks
  | error e =>
    refine iff_of_true ?_ (by simp)
    have hrefusal : isCompletionRefusal e = false := by
      refine Bool.eq_false_iff.mpr fun hcompletion => ?_
      have hunmet := (validateTaskUpdate_refuses_iff task _).mp ⟨e, hvalid, hcompletion⟩
      cases hstatus.symm.trans hunmet.requested
    have hupdate : s.ctx.taskStore.updateWithConfirm ((s.tape 0).storeEnv u) payload.id
        (updateArgs workspace payload) = (.error e, s.ctx.taskStore) := by
      rw [TaskStore.updateWithConfirm, hget]
      simp only [hvalid]
    rw [hupdate, settleUpdate, afterRefusal, if_neg (by simp [hrefusal])]
    exact ⟨rfl, congrArg (fun result => result.2.inner) hupdate, rfl, rfl⟩

/-- A progress report about an ended task is refused and changes nothing if and only if it is
blank, or its caller is not registered or no party of the task, or the task is removed. -/
theorem progress_refused_iff (hget : d.taskStore.inner.get id = some task)
    (hended : isTerminalStatus task.status = true) (tape : Nat → Reading) :
    Refused d ((reportTaskProgress u workspace id note).run (Sim.exec u) ⟨d, tape⟩) ↔
      Text.trim note = "" ∨ workspace = "" ∨ task.removedAt ≠ none ∨
        (workspace ≠ task.assignee ∧ workspace ≠ task.createdBy) := by
  by_cases hnote : Text.trim note = ""
  · simp only [hnote, true_or, iff_true, reportTaskProgress, if_true]
    exact ⟨rfl, rfl, rfl, rfl⟩
  have hrun : (reportTaskProgress u workspace id note).run (Sim.exec u) ⟨d, tape⟩ =
      (handleUpdateTask u workspace (progressPayload id note task.status)).run (Sim.exec u)
        (Sim.tick ⟨d, tape⟩) := by
    rw [reportTaskProgress, if_neg hnote, Prog.run_bind]
    simp only [handle, handleGetTask, Prog.run_bind, Prog.run_call, Sim.exec, Cmd.exec, hget]
    rfl
  rw [hrun]
  obtain rfl | hreg := eq_or_ne workspace ""
  · simp only [true_or, or_true, iff_true]
    exact ⟨rfl, rfl, rfl, rfl⟩
  · have hiff := refused_iff_invalid (u := u) (progressPayload id note task.status)
      (Sim.tick ⟨d, tape⟩) hget (status_progressPayload id note hended) hreg
    refine hiff.trans ?_
    rw [Ne, validate_progress_iff hended, not_and_or, not_or]
    simp only [hnote, hreg, false_or, ne_eq]

/-- A daemon in which `ann` has cancelled her task of `bob`. -/
def cancelledCtx : HandlerCtx :=
  (cancelWith .done).after .ascii startedCtx

/-- A report of `cat` about the cancelled task is refused. -/
theorem progress_refused_foreign :
    Refused cancelledCtx ((reportTaskProgress .ascii "cat" calmReading.uuid "on it").run
      (Sim.exec .ascii) ⟨cancelledCtx, fun _ => calmReading⟩) := by
  have hfound : ((cancelledCtx.taskStore.inner.get calmReading.uuid).any fun task =>
      isTerminalStatus task.status && task.assignee = "bob" && task.createdBy = "ann") = true := by
    decide +kernel
  obtain ⟨task, hget, hall⟩ := (Option.any_eq_true _ _).mp hfound
  simp only [Bool.and_eq_true, decide_eq_true_eq] at hall
  obtain ⟨⟨hended, hassignee⟩, hcreator⟩ := hall
  refine (progress_refused_iff hget hended _).mpr (.inr (.inr (.inr ?_)))
  rw [hassignee, hcreator]
  decide

/-- A report of `bob` about it is accepted: it is logged, and the task gets a new version. -/
theorem progress_accepted_cancelled :
    let after := (reportTaskProgress .ascii "bob" calmReading.uuid "one more thing").run
      (Sim.exec .ascii) ⟨cancelledCtx, fun _ => calmReading⟩
    after.1.isOk = true ∧
      ((cancelledCtx.taskStore.inner.get calmReading.uuid).map fun task =>
        (task.status, task.version, task.logs.length)) = some (.cancelled, 3, 1) ∧
      ((after.2.ctx.taskStore.inner.get calmReading.uuid).map fun task =>
        (task.status, task.version, task.logs.length)) = some (.cancelled, 4, 2) := by
  decide +kernel

end Ax.Mcp
