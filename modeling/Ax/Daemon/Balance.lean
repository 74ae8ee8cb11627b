import Ax.Daemon.TaskStore.Runs
import Ax.Daemon.Mail

/-!
# Requests and the balance of mailboxes

Every request but `update_task`, and the nudges of the reconcile pass, keep the
balance between unread mail and pending wakes in every mailbox: they are made of
deliveries, purges and readings, and of commands that touch no mailbox.

Main results:

- Theorems `respects_*`: each of these requests, and the nudges, keep every balance.
-/

namespace Ax.Daemon

variable {u : Unicode} {α : Type}

/-! ## Requests that keep every balance -/

lemma respects_of_delivery {x : String} {p : Program α} (h : p.Uses (Cmd.DeliversTo x))
    (hx : ∀ s, ((p.run (Sim.exec u) s).2.ctx.mailbox x).Announced) :
    p.Respects (Sim.exec u) AllTended :=
  respects_of_announced (h.mono fun _ hc => hc.within) hx

lemma respects_perform {c : Cmd} (h : c.Quiet) : (perform c).Respects (Sim.exec u) AllTended :=
  respects_of_quiet (.call h)

variable (workspace : String)

lemma respects_touchNow : (touchNow workspace).Respects (Sim.exec u) AllTended :=
  respects_of_quiet (quiet_touchNow workspace)

/-- Sending a message. -/
theorem respects_handleSendMessage (payload : SendMessagePayload) :
    (handleSendMessage workspace payload).Respects (Sim.exec u) AllTended := by
  have hsend := respects_of_delivery (u := u)
    (deliversTo_sendMessage workspace payload.to_ payload.message)
    (announced_sendMessage workspace payload.to_ payload.message)
  refine .bind (respects_of_quiet quiet_currentAxBin) fun _ => ?_
  refine .attempt fun _ _ => .attempt fun _ _ => ?_
  split
  · exact .ret _
  · exact .bind hsend fun _ => .ret _
  · refine .bind hsend fun _ => ?_
    refine .bind (respects_perform rfl) fun _ => ?_
    exact .attempt fun _ _ => .ret _

/-- Sending a message to everyone. -/
theorem respects_handleBroadcast (payload : BroadcastPayload) :
    (handleBroadcast workspace payload).Respects (Sim.exec u) AllTended := by
  refine .bind (respects_of_quiet quiet_currentAxBin) fun _ => ?_
  refine .attempt fun _ _ => .attempt fun _ _ => ?_
  refine .bind (respects_perform rfl) fun names => ?_
  refine .bind (.mapM fun recipient _ => respects_of_delivery
    (deliversTo_broadcastTo workspace payload.message recipient)
    (announced_broadcastTo workspace payload.message recipient)) fun _ => ?_
  refine .bind (respects_touchNow workspace) fun _ => ?_
  dsimp only
  split
  · exact .ret _
  · refine .bind (respects_of_quiet (quiet_dispatchRecipients _ _ _)) fun _ => ?_
    exact .attempt fun _ _ => .ret _

lemma respects_dispatchTaskStart (task : Task) :
    (dispatchTaskStart u task).Respects (Sim.exec u) AllTended := by
  unfold dispatchTaskStart
  split
  · exact .ret _
  · exact .ret _
  · refine .bind (respects_of_delivery (deliversTo_deliverTask _ _ _)
      (announced_deliverTask _ _ _)) fun _ => ?_
    split
    · exact .ret _
    · refine .bind (respects_perform rfl) fun _ => ?_
      exact .attempt fun _ _ => .ret _

/-- Starting a task. -/
theorem respects_handleStartTask (payload : StartTaskPayload) :
    (handleStartTask u workspace payload).Respects (Sim.exec u) AllTended := by
  refine .attempt fun _ _ => .attempt fun _ _ => .attempt fun _ _ => ?_
  refine .bind (respects_of_quiet (quiet_dispatchConfigPathForWorkspace workspace)) fun _ => ?_
  refine .bind (respects_perform rfl) fun _ => .attempt fun task _ => ?_
  refine .bind (respects_dispatchTaskStart task) fun _ => .attempt fun _ _ => ?_
  refine .bind (respects_touchNow workspace) fun _ => ?_
  exact .bind (respects_of_quiet (quiet_refreshedTask _ _)) fun _ => .ret _

/-- Creating a task. -/
theorem respects_handleCreateTask (payload : CreateTaskPayload) :
    (handleCreateTask u workspace payload).Respects (Sim.exec u) AllTended := by
  refine .attempt fun _ _ => .attempt fun _ _ => ?_
  refine .bind (respects_perform rfl) fun _ => .attempt fun task _ => ?_
  refine .bind ?_ fun _ => .bind (respects_touchNow workspace) fun _ => .ret _
  unfold dispatchCreatedTask
  split
  · refine .bind (respects_of_delivery (deliversTo_deliverTask _ _ _)
      (announced_deliverTask _ _ _)) fun _ => ?_
    exact respects_of_quiet (quiet_refreshedTask _ _)
  · exact .ret _

lemma respects_applyTaskStateFollowup (task : Task) :
    (applyTaskStateFollowup u task).Respects (Sim.exec u) AllTended := by
  unfold applyTaskStateFollowup
  split
  · exact .ret _
  · exact .bind (respects_purgeTaskMessages _ _) fun _ =>
      respects_notifyCreatorOfTerminalStatus task

lemma respects_afterUpdate (task : Task) :
    (afterUpdate u workspace task).Respects (Sim.exec u) AllTended := by
  refine .bind (respects_touchNow workspace) fun _ => ?_
  exact .bind (respects_applyTaskStateFollowup task) fun _ => .ret _

/-- Cancelling a task. -/
theorem respects_handleCancelTask (payload : CloseTaskPayload) :
    (handleCancelTask u workspace payload).Respects (Sim.exec u) AllTended := by
  refine .attempt fun _ _ => .bind (respects_perform rfl) fun _ => .attempt fun task _ => ?_
  exact respects_afterUpdate workspace task

/-- Removing a task. -/
theorem respects_handleRemoveTask (payload : CloseTaskPayload) :
    (handleRemoveTask u workspace payload).Respects (Sim.exec u) AllTended := by
  refine .attempt fun _ _ => .bind (respects_perform rfl) fun _ => .attempt fun task _ => ?_
  refine .bind (respects_touchNow workspace) fun _ => ?_
  exact .bind (respects_purgeTaskMessages _ _) fun _ => .ret _

/-! ## Interventions -/

lemma respects_queueTaskWake (task : Task) (sender : String) :
    (queueTaskWake u task task.assignee sender).Respects (Sim.exec u) AllTended := by
  refine respects_of_delivery (x := task.assignee) ?_ fun s => ?_
  · refine .bind (deliversTo_ensureTaskWakeMessage task sender) fun _ => ?_
    exact .bind (.call rfl) fun _ => .ret _
  · unfold queueTaskWake
    simp only [Prog.run_bind, Prog.run_call, Prog.run_pure]
    exact announced_schedule sender (unread_ensureTaskWakeMessage task sender s)

variable {task : Task} {s : Sim}

lemma assignee_of_planTaskWake {live : Bool} {configPath assignee : String}
    (h : planTaskWake task live = .ensureRunnable configPath assignee) :
    assignee = task.assignee := by
  unfold planTaskWake at h
  dsimp only at h
  split_ifs at h
  cases h
  rfl

lemma respects_dispatchTaskWake (task : Task) (sender : String) :
    (dispatchTaskWake u task sender).Respects (Sim.exec u) AllTended := by
  refine .bind (respects_perform rfl) fun live => ?_
  split
  · rename_i configPath assignee hplan
    split
    · exact .bind (respects_perform rfl) fun _ => .ret _
    · rw [assignee_of_planTaskWake hplan]
      refine .bind (respects_queueTaskWake task sender) fun _ => ?_
      exact .bind (respects_perform rfl) fun _ => .ret _
  · exact .bind (respects_perform rfl) fun _ => .ret _
  · exact .ret _

lemma respects_interveneWake (workspace action : String) (task : Task) :
    (interveneWake u workspace action task).Respects (Sim.exec u) AllTended := by
  refine .bind (respects_dispatchTaskWake task workspace) fun _ => .attempt fun _ _ => ?_
  exact .bind (respects_of_quiet (quiet_refreshedTask _ _)) fun _ => .ret _

variable (payload : InterveneTaskPayload)

lemma respects_afterRetry {retried : Task} (h : retried.assignee = task.assignee) :
    (afterRetry u workspace payload task retried).Respects (Sim.exec u) AllTended := by
  refine .bind (respects_of_delivery (deliversTo_redeliverTask workspace payload.note h)
    (announced_redeliverTask workspace payload.note h)) fun _ => ?_
  dsimp only
  split
  · exact .bind (respects_of_quiet (quiet_refreshedTask _ _)) fun _ => .ret _
  · refine .bind (respects_perform rfl) fun _ => .attempt fun _ _ => ?_
    exact .bind (respects_of_quiet (quiet_refreshedTask _ _)) fun _ => .ret _

lemma tended_interveneRetry (hget : s.ctx.taskStore.inner.get task.id = some task) :
    AllTended s ((interveneRetry u workspace payload task).run (Sim.exec u) s).2 := by
  let retryCmd : Cmd := .retryTask task.id payload.note workspace payload.expectedVersion
  have hquiet : AllTended s (Sim.exec u retryCmd s).2 := respects_perform (c := retryCmd) rfl s
  unfold interveneRetry
  rw [Prog.run_bind, Prog.run_call]
  refine trans_of AllTended hquiet (Prog.Respects.attempt (fun retried hok => ?_) _)
  refine respects_afterRetry workspace payload ?_
  cases hresult : (Sim.exec u retryCmd s).1 with
  | error e =>
    rw [hresult] at hok
    cases hok
  | ok answer =>
    rw [hresult] at hok
    cases hok
    exact assignee_of_retry hget hresult

lemma run_taskForIntervention (id workspace : String) (expected : Option Int)
    (f : Except TaskStoreError Task → Program α) (s : Sim) :
    (perform (.taskForIntervention id workspace expected) >>= f).run (Sim.exec u) s =
      (f (s.ctx.taskStore.getForIntervention id workspace expected)).run (Sim.exec u) s.tick :=
  rfl

lemma AllTended.of_tick {s' : Sim} (h : AllTended s.tick s') : AllTended s s' :=
  h

lemma get_of_getForIntervention {s : TaskStore} {id workspace : String} {expected : Option Int}
    (h : s.getForIntervention id workspace expected = .ok task) :
    s.inner.get task.id = some task := by
  have hget := (getForIntervention_eq_ok_iff.mp h).1
  rwa [← KeyedMap.key_of_get hget] at hget

lemma tended_interveneAction (hget : s.ctx.taskStore.inner.get task.id = some task) :
    AllTended s ((interveneAction u workspace payload task).run (Sim.exec u) s).2 := by
  unfold interveneAction
  split
  · exact respects_interveneWake workspace payload.action task s
  · exact respects_of_quiet (quiet_interveneInterrupt payload.action task) s
  · exact tended_interveneRetry workspace payload hget
  · exact refl_of AllTended s

lemma tended_interveneOn (hget : s.ctx.taskStore.inner.get task.id = some task) :
    AllTended s ((interveneOn u workspace payload task).run (Sim.exec u) s).2 := by
  unfold interveneOn
  rw [Prog.run_bind]
  refine trans_of AllTended (tended_interveneAction (u := u) workspace payload hget) ?_
  exact Prog.Respects.attempt (fun _ _ => .bind (respects_touchNow workspace) fun _ => .ret _) _

/-- An intervention. -/
theorem respects_handleInterveneTask :
    (handleInterveneTask u workspace payload).Respects (Sim.exec u) AllTended := by
  refine .attempt fun _ _ s => ?_
  rw [run_taskForIntervention]
  cases hfound : s.ctx.taskStore.getForIntervention payload.id workspace
      payload.expectedVersion with
  | error e => exact refl_of AllTended s
  | ok task =>
    simp only [Except.mapError, Prog.attempt]
    have hget := get_of_getForIntervention hfound
    exact AllTended.of_tick (tended_interveneOn workspace payload hget)

/-! ## Passes and the remaining requests -/

/-- The nudges of a reconcile pass. -/
theorem respects_nudgePass : (nudgePass u).Respects (Sim.exec u) AllTended := by
  refine .bind (respects_perform rfl) fun now => ?_
  refine .bind (respects_perform rfl) fun tasks => ?_
  refine .bind (.mapM fun task _ => ?_) fun _ => .ret _
  unfold nudgeIfIdle
  split
  · exact .ret _
  · refine .bind (respects_perform rfl) fun live => ?_
    split
    · refine .bind (respects_perform rfl) fun idle => ?_
      split
      · refine .bind (respects_perform rfl) fun pending => ?_
        split
        · exact .ret _
        · exact respects_of_delivery (deliversTo_nudge now task) (announced_nudge now task)
      · exact .ret _
    · exact .ret _

lemma quiet_handleUnregister : (handleUnregister workspace).Uses Cmd.Quiet := by
  unfold handleUnregister
  split
  · exact .bind (.call rfl) fun _ => .ret _
  · exact .ret _

lemma quiet_handleRecordMcpToolActivity (payload : RecordMcpToolActivityPayload) :
    (handleRecordMcpToolActivity workspace payload).Uses Cmd.Quiet := by
  refine .attempt fun _ _ => ?_
  split
  · exact .ret _
  · split
    · exact .ret _
    · refine .bind (.call rfl) fun _ => .bind (.call rfl) fun _ => ?_
      dsimp only
      split
      · exact .ret _
      · exact .bind (.call rfl) fun _ => .ret _

lemma quiet_handleGetTask (id : String) : (handleGetTask u id).Uses Cmd.Quiet := by
  refine .bind (.call rfl) fun found => ?_
  split
  · exact .ret _
  · exact .ret _

end Ax.Daemon
