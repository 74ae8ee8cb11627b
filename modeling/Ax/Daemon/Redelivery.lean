import Ax.Daemon.UnreadMail

/-!
# Redelivery of reset tasks

A retry, the recovery at a start and the recovery pass send a dispatched task
back to pending.  The retry also delivers the task again, once its record is
written.  The two recoveries touch the task store only, so the task is delivered
again without a further request just in case a message of it, or a wake, was
there already.

Main results:

- Theorem `reset_redelivered_iff`: which resets leave the task to be delivered again.
-/

namespace Ax.Daemon

variable {u : Unicode} {α : Type}

/-! ## Statuses along a program -/

/-- Commands that cannot change the status of the task `id`. -/
def Cmd.Spares (id : String) : Cmd → Prop
  | .createTask _ | .updateTask .. | .cancelTask .. | .removeTask ..
  | .recoverStaleInProgress => False
  | .retryTask id' .. => id' ≠ id
  | _ => True

/-- The task `id` is stored with a status. -/
def HandlerCtx.HasStatus (d : HandlerCtx) (id : String) (status : TaskStatus) : Prop :=
  ∃ task, d.taskStore.inner.get id = some task ∧ task.status = status

variable {d : HandlerCtx} {id workspace : String} {status : TaskStatus} {s : Sim}
  {payload : InterveneTaskPayload} {task retried : Task} {e : TaskStoreError}

lemma hasStatus_of_spares {c : StoreCall} {d' : HandlerCtx} (hspares : c.Spares id)
    (hstep : StoreStep d.taskStore c d'.taskStore) (h : d.HasStatus id status) :
    d'.HasStatus id status := by
  obtain ⟨task, hget, rfl⟩ := h
  exact status_of_spares hspares hstep hget

lemma hasStatus_exec {c : Cmd} (hspares : c.Spares id) (h : s.ctx.HasStatus id status) :
    (Sim.exec u c s).2.ctx.HasStatus id status := by
  cases c with
  | retryTask id' note workspace expected =>
    exact hasStatus_of_spares
      (c := ⟨(s.tape 0).storeEnv u, .retry id' note workspace expected⟩) hspares
      ⟨trivial, rfl⟩ h
  | recordDispatch id' recipient stamp =>
    exact hasStatus_of_spares
      (c := ⟨(s.tape 0).storeEnv u, .recordDispatch id' recipient stamp⟩) trivial
      ⟨trivial, rfl⟩ h
  | markToolActivity id' by_ stamp =>
    exact hasStatus_of_spares
      (c := ⟨(s.tape 0).storeEnv u, .markToolActivity id' by_ stamp⟩) trivial ⟨trivial, rfl⟩ h
  | createTask input => exact hspares.elim
  | updateTask id' a => exact hspares.elim
  | cancelTask id' reason workspace expected => exact hspares.elim
  | removeTask id' reason workspace expected => exact hspares.elim
  | recoverStaleInProgress => exact hspares.elim
  | _ => exact h

lemma hasStatus_of_uses {p : Program α} (hp : p.Uses (Cmd.Spares id))
    (h : s.ctx.HasStatus id status) : (p.run (Sim.exec u) s).2.ctx.HasStatus id status := by
  refine Prog.Uses.preserves (P := fun t => t.ctx.HasStatus id status) ?_ hp s h
  intro c t hc ht
  exact hasStatus_exec hc ht

lemma spares_enqueueTaskMessage (id : String) (task : Task) (sender content : String) :
    (enqueueTaskMessage u task sender content).Uses (Cmd.Spares id) := by
  refine .bind (.call trivial) fun _ => .bind (.call trivial) fun _ => ?_
  exact .bind (.call trivial) fun _ => .ret _

lemma spares_dispatchTaskWake (id : String) (task : Task) (sender : String) :
    (dispatchTaskWake u task sender).Uses (Cmd.Spares id) := by
  refine .bind (.call trivial) fun live => ?_
  split
  · split
    · exact .bind (.call trivial) fun _ => .ret _
    · refine .bind (.bind (.bind (.call trivial) fun unread => ?_) fun _ =>
        .bind (.call trivial) fun _ => .ret _) fun _ => .bind (.call trivial) fun _ => .ret _
      split
      · exact .ret _
      · exact .bind (spares_enqueueTaskMessage id _ _ _) fun _ => .ret _
  · exact .bind (.call trivial) fun _ => .ret _
  · exact .ret _

lemma spares_refreshedTask (id taskId : String) (task : Task) :
    (refreshedTask taskId task).Uses (Cmd.Spares id) :=
  .bind (.call trivial) fun _ => .ret _

lemma spares_afterRetry (id workspace : String) (payload : InterveneTaskPayload)
    (task retried : Task) : (afterRetry u workspace payload task retried).Uses (Cmd.Spares id) := by
  refine .bind (.bind (.call trivial) fun _ => .bind (spares_enqueueTaskMessage id _ _ _)
    fun _ => .bind (.call trivial) fun _ => .ret _) fun _ => ?_
  dsimp only
  split
  · exact .bind (spares_refreshedTask id _ _) fun _ => .ret _
  · refine .bind (.call trivial) fun _ => .attempt fun _ _ => ?_
    exact .bind (spares_refreshedTask id _ _) fun _ => .ret _

lemma spares_interveneAction (workspace : String)
    (h : planIntervention payload.action = .retry → task.id ≠ id) :
    (interveneAction u workspace payload task).Uses (Cmd.Spares id) := by
  unfold interveneAction
  split
  · refine .bind (spares_dispatchTaskWake id _ _) fun _ => .attempt fun _ _ => ?_
    exact .bind (spares_refreshedTask id _ _) fun _ => .ret _
  · refine .bind (.call trivial) fun live => ?_
    split
    · exact .bind (.call trivial) fun _ => .ret _
    · exact .ret _
  · rename_i hretry
    refine .bind (.call (h hretry)) fun _ => .attempt fun retried _ => ?_
    exact spares_afterRetry id workspace payload task retried
  · exact .ret _

lemma spares_interveneOn (workspace : String)
    (h : planIntervention payload.action = .retry → task.id ≠ id) :
    (interveneOn u workspace payload task).Uses (Cmd.Spares id) := by
  refine .bind (spares_interveneAction workspace h) fun _ => .attempt fun _ _ => ?_
  exact .bind (.bind (.call trivial) fun _ => .call trivial) fun _ => .ret _

/-! ## Retries -/

lemma commit_ok_iff (env : StoreEnv) (s : TaskStore) (inner : TaskMap) (task : Task) :
    (∃ answer, (TaskStore.commit env s inner task).1 = .ok answer) ↔
      s.filePath = none ∨ env.write = .done := by
  unfold TaskStore.commit TaskStore.persistLocked
  cases hpath : s.filePath with
  | none => simp [Except.map]
  | some path => cases hwrite : env.write <;> simp [Except.map]

lemma persists_of_retry_ok {env : StoreEnv} {s : TaskStore} {note : String}
    {expected : Option Int} (h : (s.retry env id note workspace expected).1 = .ok retried) :
    s.filePath = none ∨ env.write = .done := by
  obtain ⟨_, _, ⟨_, hkept, _⟩ | ⟨_, hcommit⟩⟩ := rewriting_retry.of_ok h
  · exact hkept.elim
  · rw [hcommit] at h
    exact (commit_ok_iff _ _ _ _).mp ⟨retried, h⟩

lemma retry_eq_self_of_error {env : StoreEnv} {s : TaskStore} {note : String}
    {expected : Option Int} (hwrite : s.filePath = none ∨ env.write = .done)
    (h : (s.retry env id note workspace expected).1 = .error e) :
    (s.retry env id note workspace expected).2 = s := by
  have hretry : Rewriting env s id _ _ _ (s.retry env id note workspace expected) :=
    rewriting_retry
  generalize s.retry env id note workspace expected = answer at h hretry ⊢
  cases hretry with
  | refused => rfl
  | kept => rfl
  | committed =>
    obtain ⟨answer, hok⟩ := (commit_ok_iff env s _ _).mpr hwrite
    rw [hok] at h
    cases h

lemma run_retryTask (id note workspace : String) (expected : Option Int)
    (f : Except TaskStoreError Task → Program α) (s : Sim) :
    (perform (.retryTask id note workspace expected) >>= f).run (Sim.exec u) s =
      (f (s.ctx.taskStore.retry ((s.tape 0).storeEnv u) id note workspace expected).1).run
        (Sim.exec u) (Sim.exec u (.retryTask id note workspace expected) s).2 :=
  rfl

lemma run_interveneRetry_of_error
    (h : (s.ctx.taskStore.retry ((s.tape 0).storeEnv u) task.id payload.note workspace
      payload.expectedVersion).1 = .error e) :
    (interveneRetry u workspace payload task).run (Sim.exec u) s =
      (.error (e.message u),
        (Sim.exec u (.retryTask task.id payload.note workspace payload.expectedVersion) s).2) := by
  unfold interveneRetry
  rw [run_retryTask, h]
  rfl

lemma run_interveneRetry_of_ok
    (h : (s.ctx.taskStore.retry ((s.tape 0).storeEnv u) task.id payload.note workspace
      payload.expectedVersion).1 = .ok retried) :
    (interveneRetry u workspace payload task).run (Sim.exec u) s =
      (afterRetry u workspace payload task retried).run (Sim.exec u)
        (Sim.exec u (.retryTask task.id payload.note workspace payload.expectedVersion) s).2 := by
  unfold interveneRetry
  rw [run_retryTask, h]
  rfl

lemma wakePending_afterRetry (workspace : String) (payload : InterveneTaskPayload)
    (h : retried.assignee = task.assignee) (s : Sim) :
    (((afterRetry u workspace payload task retried).run (Sim.exec u) s).2.ctx.mailbox
      task.assignee).wakePending = true := by
  have hdelivered := (announced_redeliverTask (u := u) workspace payload.note h s).wakePending
  unfold afterRetry
  rw [Prog.run_bind, mailbox_of_uses_quiet]
  · exact hdelivered
  · dsimp only
    split
    · exact .bind (quiet_refreshedTask _ _) fun _ => .ret _
    · refine .bind (.call rfl) fun _ => .attempt fun _ _ => ?_
      exact .bind (quiet_refreshedTask _ _) fun _ => .ret _

lemma Job.result_interveneTask (workspace : String) (payload : InterveneTaskPayload)
    (tape : Nat → Reading) (d : HandlerCtx) :
    (Job.request (.interveneTask workspace payload)).result u tape d =
      ((handleInterveneTask u workspace payload).run (Sim.exec u) ⟨d, tape⟩).2.ctx := by
  unfold Job.result Job.program
  rw [Prog.run_bind]
  rfl

lemma run_handleInterveneTask_of_found (hreg : workspace ≠ "") {found : Task}
    (h : s.ctx.taskStore.getForIntervention payload.id workspace payload.expectedVersion =
      .ok found) :
    (handleInterveneTask u workspace payload).run (Sim.exec u) s =
      (interveneOn u workspace payload found).run (Sim.exec u) s.tick := by
  unfold handleInterveneTask requireRegistered
  rw [if_neg hreg, Prog.attempt, run_taskForIntervention, h]
  rfl

lemma ctx_handleInterveneTask_of_refused
    (h : workspace = "" ∨ ∃ e, s.ctx.taskStore.getForIntervention payload.id workspace
      payload.expectedVersion = .error e) :
    ((handleInterveneTask u workspace payload).run (Sim.exec u) s).2.ctx = s.ctx := by
  by_cases hreg : workspace = ""
  · subst hreg
    rfl
  · obtain ⟨e, herror⟩ := h.resolve_left hreg
    unfold handleInterveneTask requireRegistered
    rw [if_neg hreg, Prog.attempt, run_taskForIntervention, herror]
    rfl

lemma retry_of_moved (hget : s.ctx.taskStore.inner.get task.id = some task)
    (hmoved : ¬((handleInterveneTask u workspace payload).run (Sim.exec u) s).2.ctx.HasStatus
      task.id task.status) :
    planIntervention payload.action = .retry ∧
      (handleInterveneTask u workspace payload).run (Sim.exec u) s =
        (interveneOn u workspace payload task).run (Sim.exec u) s.tick := by
  have hstatus : s.ctx.HasStatus task.id task.status := ⟨task, hget, rfl⟩
  by_cases hreg : workspace = ""
  · rw [ctx_handleInterveneTask_of_refused (.inl hreg)] at hmoved
    exact absurd hstatus hmoved
  · cases hfound : s.ctx.taskStore.getForIntervention payload.id workspace
        payload.expectedVersion with
    | error e =>
      rw [ctx_handleInterveneTask_of_refused (.inr ⟨e, hfound⟩)] at hmoved
      exact absurd hstatus hmoved
    | ok found =>
      rw [run_handleInterveneTask_of_found hreg hfound] at hmoved ⊢
      by_cases hretry : planIntervention payload.action = .retry → found.id ≠ task.id
      · -- Nothing the intervention does can change the status of the task.
        exact absurd (hasStatus_of_uses (s := s.tick) (spares_interveneOn workspace hretry)
          hstatus) hmoved
      · obtain ⟨hplan, hid⟩ := Classical.not_imp.mp hretry
        have hsame : found = task := by
          have hstored := get_of_getForIntervention hfound
          rw [not_not.mp hid, hget] at hstored
          exact (Option.some.inj hstored).symm
        exact ⟨hplan, by rw [hsame]⟩

lemma mailbox_interveneOn (workspace : String) (task : Task)
    (hplan : planIntervention payload.action = .retry) (s : Sim) (w : String) :
    ((interveneOn u workspace payload task).run (Sim.exec u) s).2.ctx.mailbox w =
      ((interveneRetry u workspace payload task).run (Sim.exec u) s).2.ctx.mailbox w := by
  unfold interveneOn interveneAction
  rw [hplan, Prog.run_bind, mailbox_of_uses_quiet]
  exact .attempt fun _ _ => quiet_touchNow_ret workspace _

lemma hasStatus_interveneOn_of_error {workspace : String} {payload : InterveneTaskPayload}
    {task : Task} (hplan : planIntervention payload.action = .retry) {s : Sim} {e : TaskStoreError}
    (hwrite : s.ctx.taskStore.filePath = none ∨ (s.tape 0).write = .done)
    (h : (s.ctx.taskStore.retry ((s.tape 0).storeEnv u) task.id payload.note workspace
      payload.expectedVersion).1 = .error e)
    (hget : s.ctx.taskStore.inner.get task.id = some task) :
    ((interveneOn u workspace payload task).run (Sim.exec u) s).2.ctx.HasStatus task.id
      task.status := by
  unfold interveneOn interveneAction
  rw [hplan, Prog.run_bind, run_interveneRetry_of_error h]
  refine ⟨task, ?_, rfl⟩
  have hself := retry_eq_self_of_error hwrite h
  exact (congrArg (fun store => store.inner.get task.id) hself).trans hget

/-! ## Resets -/

namespace World

def record (stateDir : String) (world : World) (id : String) : Option Task :=
  match world with
  | .running _ d => d.taskStore.inner.get id
  | .stopped disk =>
    match TaskStore.load stateDir disk.tasks disk.legacyTasks with
    | .ok store => store.inner.get id
    | .error _ => none

def Delivers (u : Unicode) (world : World) (task : Task) : Prop :=
  (∃ msg ∈ world.unread task.assignee, messageTaskId u msg = task.id) ∨
    world.wakePending task.assignee = true

end World

def Event.ResetsTasks : Event → Prop
  | .start _ => True
  | .run .recoverPass _ => True
  | .run (.request (.interveneTask _ payload)) _ => planIntervention payload.action = .retry
  | _ => False

structure World.Resets (stateDir : String) (world : World) (event : Event) (world' : World)
    (task : Task) : Prop where
  operation : event.ResetsTasks
  before : world.record stateDir task.id = some task
  dispatched : task.lastDispatchAt.isSome = true
  running : task.status = .inProgress ∨ task.status = .blocked
  after : ∃ task', world'.record stateDir task.id = some task' ∧ task'.status = .pending

def World.ResetDelivers (u : Unicode) (stateDir : String) (task : Task) : World → Event → Prop
  | .stopped disk, .start r =>
    r.Loads stateDir disk ∧
      ∃ msg ∈ persistedInbox disk.queue task.assignee, messageTaskId u msg = task.id
  | .running legacy d, .run (.request (.interveneTask _ _)) tape =>
    d.taskStore.filePath = none ∨ (tape 1).write = .done ∨
      (World.running legacy d).Delivers u task
  | .running legacy d, .run .recoverPass _ => (World.running legacy d).Delivers u task
  | _, _ => False

variable (legacy : FileContent (List Task))

lemma delivers_iff_of_mailbox {d' : HandlerCtx}
    (h : d'.mailbox task.assignee = d.mailbox task.assignee) :
    (World.running legacy d').Delivers u task ↔ (World.running legacy d).Delivers u task := by
  have hunread : d'.queue.inbox task.assignee = d.queue.inbox task.assignee :=
    congrArg Mailbox.unread h
  have hwake : d'.wakeScheduler.isPending task.assignee = d.wakeScheduler.isPending task.assignee :=
    congrArg Mailbox.wakePending h
  simp only [World.Delivers, World.unread, World.wakePending, hunread, hwake]

lemma delivers_of_wakePending (h : (d.mailbox task.assignee).wakePending = true) :
    (World.running legacy d).Delivers u task :=
  .inr h

lemma delivers_start_iff (stateDir : String) (r : StartReading) (disk : Disk) (task : Task) :
    (start u stateDir r disk).Delivers u task ↔
      r.Loads stateDir disk ∧
        ∃ msg ∈ persistedInbox disk.queue task.assignee, messageTaskId u msg = task.id := by
  unfold World.Delivers
  rw [wakePending_start]
  constructor
  · rintro (⟨msg, hmem, hid⟩ | hpending)
    · obtain ⟨hloads, _⟩ := (unread_start_iff stateDir r disk task.assignee).mp
        (List.ne_nil_of_mem hmem)
      refine ⟨hloads, msg, ?_, hid⟩
      cases hstart : start u stateDir r disk with
      | stopped disk' =>
        rw [hstart] at hmem
        cases hmem
      | running legacy d =>
        rw [hstart, World.unread, ((start_running hstart).2 _).1] at hmem
        exact hmem
    · cases hpending
  · rintro ⟨hloads, msg, hmem, hid⟩
    obtain ⟨legacy, d, hstart⟩ := start_of_loads (u := u) hloads (List.ne_nil_of_mem hmem)
    refine .inl ⟨msg, ?_, hid⟩
    rw [hstart, World.unread, ((start_running hstart).2 _).1]
    exact hmem

lemma delivers_interveneOn_iff (hplan : planIntervention payload.action = .retry)
    (hget : s.ctx.taskStore.inner.get task.id = some task)
    (hmoved : ¬((interveneOn u workspace payload task).run (Sim.exec u) s).2.ctx.HasStatus
      task.id task.status) :
    (World.running legacy ((interveneOn u workspace payload task).run (Sim.exec u)
      s).2.ctx).Delivers u task ↔
    s.ctx.taskStore.filePath = none ∨ (s.tape 0).write = .done ∨
      (World.running legacy s.ctx).Delivers u task := by
  have hmailbox := mailbox_interveneOn (u := u) workspace task hplan s task.assignee
  cases hresult : (s.ctx.taskStore.retry ((s.tape 0).storeEnv u) task.id payload.note workspace
      payload.expectedVersion).1 with
  | ok retried =>
    rw [run_interveneRetry_of_ok hresult] at hmailbox
    have hwake := wakePending_afterRetry (u := u) workspace payload (assignee_of_retry hget hresult)
      (Sim.exec u (.retryTask task.id payload.note workspace payload.expectedVersion) s).2
    rw [← hmailbox] at hwake
    refine ⟨fun _ => ?_, fun _ => delivers_of_wakePending legacy hwake⟩
    rcases persists_of_retry_ok hresult with hpath | hwrite
    · exact .inl hpath
    · exact .inr (.inl hwrite)
  | error e =>
    rw [run_interveneRetry_of_error hresult,
      mailbox_sim_of_quiet (c := .retryTask ..) rfl] at hmailbox
    rw [delivers_iff_of_mailbox legacy hmailbox]
    have hkept := fun hwrite =>
      hmoved (hasStatus_interveneOn_of_error hplan hwrite hresult hget)
    constructor
    · exact fun h => .inr (.inr h)
    · rintro (hpath | hwrite | hdelivers)
      · exact (hkept (.inl hpath)).elim
      · exact (hkept (.inr hwrite)).elim
      · exact hdelivers

lemma delivers_interveneTask_iff {tape : Nat → Reading}
    (hget : d.taskStore.inner.get task.id = some task)
    (hmoved : ¬((Job.request (.interveneTask workspace payload)).result u tape d).HasStatus
      task.id task.status) :
    (World.running legacy ((Job.request (.interveneTask workspace payload)).result u tape
      d)).Delivers u task ↔
    d.taskStore.filePath = none ∨ (tape 1).write = .done ∨
      (World.running legacy d).Delivers u task := by
  rw [Job.result_interveneTask] at hmoved ⊢
  obtain ⟨hplan, hrun⟩ := retry_of_moved (s := ⟨d, tape⟩) hget hmoved
  rw [hrun] at hmoved ⊢
  exact delivers_interveneOn_iff (s := Sim.tick ⟨d, tape⟩) legacy hplan hget hmoved

/-- A reset leaves the task to be delivered exactly when it is a retry whose record
can be written, or a message of the task or a wake was there before. -/
theorem reset_redelivered_iff {stateDir : String} {world world' : World} {event : Event}
    {task : Task} (hstep : World.Step u stateDir world event world')
    (hreset : world.Resets stateDir event world' task) :
    world'.Delivers u task ↔ world.ResetDelivers u stateDir task event := by
  obtain ⟨hoperation, hbefore, _, hrunning, task', hafter, hpending⟩ := hreset
  cases world with
  | stopped disk =>
    cases event with
    | start r =>
      cases hstep
      exact delivers_start_iff stateDir r disk task
    | run job tape => cases hstep
    | flush write => cases hstep
    | stop => cases hstep
  | running legacy d =>
    cases event with
    | run job tape =>
      cases hstep
      cases job with
      | recoverPass =>
        refine delivers_iff_of_mailbox legacy ?_
        exact mailbox_of_uses_quiet quiet_recoverPass ⟨d, tape⟩ task.assignee
      | request request =>
        cases request with
        | interveneTask workspace payload =>
          refine delivers_interveneTask_iff legacy hbefore ?_
          rintro ⟨found, hfound, hstatus⟩
          have hsame : found = task' := Option.some.inj (hfound.symm.trans hafter)
          rw [← hstatus, hsame, hpending] at hrunning
          rcases hrunning with h | h
          · cases h
          · cases h
        | _ => exact hoperation.elim
      | _ => exact hoperation.elim
    | start r => cases hstep
    | flush write => exact hoperation.elim
    | stop => exact hoperation.elim

/-! ## Three resets -/

/-- A dispatched task that `bob` works on. -/
def dispatchedTask : Task :=
  { TaskStore.newTask 0 "t" (plainInput "bob" "ann" "") with
    status := .inProgress
    lastDispatchAt := some 0 }

def dispatchedDisk : Disk where
  tasks := .holds [dispatchedTask]
  legacyTasks := .absent
  queue := .absent

/-- A start at which the session of `bob` is gone. -/
def lonelyStart : StartReading :=
  { calmStart with sessionExists := fun _ => false }

/-- A recovery pass that finds the session of `bob` gone. -/
def lonelyRecovery : Event :=
  .run .recoverPass fun _ => { calmReading with sessionExists := fun _ => false }

/-- `ann` retries the task. -/
def retryRequest : Event :=
  .run (.request (.interveneTask "ann" ⟨"t", "retry", "", none⟩)) fun _ => calmReading

lemma lonelyRecovery_isSome :
    ((startedFrom dispatchedDisk).next .ascii "/state" lonelyRecovery).isSome = true := by
  decide

lemma retryRequest_isSome :
    ((startedFrom dispatchedDisk).next .ascii "/state" retryRequest).isSome = true := by
  decide

lemma resets_of_record {world world' : World} {event : Event} (hoperation : event.ResetsTasks)
    (hbefore : world.record "/state" "t" = some dispatchedTask)
    (hafter : (world'.record "/state" "t").map Task.status = some .pending) :
    world.Resets "/state" event world' dispatchedTask := by
  obtain ⟨task', hget, hstatus⟩ := Option.map_eq_some_iff.mp hafter
  exact ⟨hoperation, hbefore, rfl, .inl rfl, task', hget, hstatus⟩

lemma not_delivers {world : World} (hunread : world.unread task.assignee = [])
    (hwake : world.wakePending task.assignee = false) : ¬world.Delivers u task := by
  rintro (⟨msg, hmem, _⟩ | hpending)
  · rw [hunread] at hmem
    cases hmem
  · rw [hwake] at hpending
    cases hpending

/-- The retried task is delivered again. -/
theorem retryRequest_redelivers :
    (((startedFrom dispatchedDisk).next .ascii "/state" retryRequest).get
      retryRequest_isSome).Delivers .ascii dispatchedTask := by
  refine (reset_redelivered_iff (Option.some_get retryRequest_isSome).symm ?_).mpr ?_
  · have hplan : planIntervention "retry" = .retry := by decide
    exact resets_of_record hplan (by decide) (by decide +kernel)
  · exact .inr (.inl rfl)

/-- The recoveries at a start and in a reconcile pass reset the task of a session
that is gone, and leave neither a message nor a wake. -/
theorem recovered_task_not_delivered :
    (World.Step .ascii "/state" (.stopped dispatchedDisk) (.start lonelyStart)
        (start .ascii "/state" lonelyStart dispatchedDisk) ∧
      (World.stopped dispatchedDisk).Resets "/state" (.start lonelyStart)
        (start .ascii "/state" lonelyStart dispatchedDisk) dispatchedTask ∧
      ¬(start .ascii "/state" lonelyStart dispatchedDisk).Delivers .ascii dispatchedTask) ∧
    ∃ world', World.Step .ascii "/state" (startedFrom dispatchedDisk) lonelyRecovery world' ∧
      (startedFrom dispatchedDisk).Resets "/state" lonelyRecovery world' dispatchedTask ∧
      ¬world'.Delivers .ascii dispatchedTask := by
  refine ⟨⟨rfl, ?_, ?_⟩, _, (Option.some_get lonelyRecovery_isSome).symm, ?_, ?_⟩
  · exact resets_of_record trivial (by decide) (by decide)
  · exact not_delivers (by decide) (by decide)
  · exact resets_of_record trivial (by decide) (by decide)
  · exact not_delivers (by decide) (by decide)

end Ax.Daemon
