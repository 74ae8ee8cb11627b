import Ax.Daemon.Balance

/-!
# Unread mail and pending wakes

In a daemon that does one thing after the other, a wake is pending only for a
workspace with unread mail.  The converse holds after every request and every
pass that delivers, with one exception: the reminder of the completion contract
comes without a wake.  A daemon that starts with persisted mail has no wakes
either.

Main results:

- Theorem `World.pending_wake_has_mail`: so in every run that begins with an empty scheduler.
- Theorem `new_mail_scheduled_iff`: in every run, the steps that leave new mail
  without a wake are exactly these reminders and the starts with persisted mail.
-/

namespace Ax.Daemon

variable {u : Unicode} {α : Type}

/-! ## The completion contract -/

structure CompletionUnmet (task : Task) (a : UpdateArgs) : Prop where
  live : task.removedAt = none
  assignee : a.workspace = task.assignee
  requested : a.status = some .completed
  allowed : isAllowedTransition task.status .completed = true
  fresh : task.status ≠ .completed
  unmet : hasLeftoverScopeDeclaration (a.result.getD task.result) = false ∨
    a.confirm.getD false = false

lemma validateCompletion_refuses_iff (task : Task) (a : UpdateArgs) :
    (∃ e, validateCompletion task a = .error e ∧ isCompletionRefusal e = true) ↔
      hasLeftoverScopeDeclaration (a.result.getD task.result) = false ∨
        a.confirm.getD false = false := by
  unfold validateCompletion
  split
  · rename_i hmarker
    exact ⟨fun _ => .inl hmarker, fun _ => ⟨_, rfl, rfl⟩⟩
  · rename_i hmarker
    split
    · rename_i hconfirm
      exact ⟨fun _ => .inr hconfirm, fun _ => ⟨_, rfl, rfl⟩⟩
    · rename_i hconfirm
      constructor
      · rintro ⟨e, h, _⟩
        cases h
      · rintro (h | h)
        · exact absurd h hmarker
        · exact absurd h hconfirm

lemma validateTaskUpdate_refuses_iff (task : Task) (a : UpdateArgs) :
    (∃ e, validateTaskUpdate task a = .error e ∧ isCompletionRefusal e = true) ↔
      CompletionUnmet task a := by
  constructor
  · rintro ⟨e, herror, hrefusal⟩
    unfold validateTaskUpdate at herror
    split at herror
    · cases herror
      cases hrefusal
    · rename_i hlive
      split at herror
      · cases herror
        cases hrefusal
      · split at herror
        · cases herror
          cases hrefusal
        · split at herror
          · cases herror
          · rename_i newStatus hstatus
            unfold validateStatusChange at herror
            split at herror
            · cases herror
              cases hrefusal
            · rename_i howner
              split at herror
              · cases herror
                cases hrefusal
              · rename_i hallowed
                split at herror
                · rename_i hcompletes
                  obtain ⟨rfl, hfresh⟩ := hcompletes
                  exact
                    { live := by simpa using hlive
                      assignee := by
                        by_contra hne
                        exact howner ⟨hne, Ne.symm hfresh⟩
                      requested := hstatus
                      allowed := by simpa using hallowed
                      fresh := hfresh
                      unmet := (validateCompletion_refuses_iff task a).mp ⟨e, herror, hrefusal⟩ }
                · cases herror
  · intro h
    obtain ⟨e, herror, hrefusal⟩ := (validateCompletion_refuses_iff task a).mpr h.unmet
    refine ⟨e, ?_, hrefusal⟩
    simp [validateTaskUpdate, validateStatusChange, h.live, h.assignee, h.requested, h.allowed,
      h.fresh, herror]

def CompletionRefused (s : TaskStore) (id : String) (a : UpdateArgs) : Prop :=
  ∃ task, s.inner.get id = some task ∧ CompletionUnmet task a

lemma updateWithConfirm_refuses_iff (env : StoreEnv) (s : TaskStore) (id : String)
    (a : UpdateArgs) :
    (∃ e, (s.updateWithConfirm env id a).1 = .error e ∧ isCompletionRefusal e = true) ↔
      CompletionRefused s id a := by
  unfold TaskStore.updateWithConfirm CompletionRefused
  cases hget : s.inner.get id with
  | none =>
    constructor
    · rintro ⟨e, herror, hrefusal⟩
      cases herror
      cases hrefusal
    · rintro ⟨task, htask, _⟩
      cases htask
  | some task =>
    have hone : (∃ t, some task = some t ∧ CompletionUnmet t a) ↔ CompletionUnmet task a :=
      ⟨fun ⟨t, ht, h⟩ => Option.some.inj ht ▸ h, fun h => ⟨task, rfl, h⟩⟩
    rw [hone, ← validateTaskUpdate_refuses_iff]
    dsimp only
    cases hvalid : validateTaskUpdate task a with
    | error e => simp
    | ok =>
      constructor
      · rintro ⟨e, herror, hrefusal⟩
        dsimp only at herror
        split at herror
        · rcases TaskStore.commit_error herror with ⟨_, rfl⟩ | ⟨_, rfl⟩
          · cases hrefusal
          · cases hrefusal
        · cases herror
      · rintro ⟨e, herror, _⟩
        cases herror

/-! ## Updates -/

lemma run_updateTask (id : String) (a : UpdateArgs)
    (f : Except TaskStoreError Task → Program α) (s : Sim) :
    (perform (.updateTask id a) >>= f).run (Sim.exec u) s =
      (f (s.ctx.taskStore.updateWithConfirm ((s.tape 0).storeEnv u) id a).1).run (Sim.exec u)
        (Sim.exec u (.updateTask id a) s).2 :=
  rfl

lemma run_afterRefusal_of_not {e : TaskStoreError} (h : isCompletionRefusal e = false)
    (workspace taskId : String) (s : Sim) :
    ((afterRefusal u workspace taskId e).run (Sim.exec u) s).2 = s := by
  unfold afterRefusal
  rw [if_neg (by simp [h])]
  rfl

lemma mailbox_afterRefusal {e : TaskStoreError} (h : isCompletionRefusal e = true)
    (workspace taskId w : String) (s : Sim) :
    (w = workspace →
      (((afterRefusal u workspace taskId e).run (Sim.exec u) s).2.ctx.mailbox w).unread ≠ []) ∧
    (((afterRefusal u workspace taskId e).run (Sim.exec u) s).2.ctx.mailbox w).wakePending =
      (s.ctx.mailbox w).wakePending ∧
    (w ≠ workspace →
      ((afterRefusal u workspace taskId e).run (Sim.exec u) s).2.ctx.mailbox w =
        s.ctx.mailbox w) := by
  unfold afterRefusal
  rw [if_pos h]
  refine ⟨?_, rfl, fun hw => ?_⟩
  · rintro rfl
    exact unread_enqueue (taskAwareMessage u _ "ax-daemon" w _) _
  · refine mailbox_of_uses_within (x := workspace) (.bind ?_ fun _ => .ret _) hw s
    exact .bind (.call trivial) fun _ => .call rfl

lemma run_handleUpdateTask_unregistered (payload : UpdateTaskPayload) (s : Sim) :
    ((handleUpdateTask u "" payload).run (Sim.exec u) s).2 = s :=
  rfl

variable {workspace w stateDir : String} {payload : UpdateTaskPayload} {job : Job} {d : HandlerCtx}

lemma run_handleUpdateTask (hreg : workspace ≠ "") (payload : UpdateTaskPayload) (s : Sim) :
    (handleUpdateTask u workspace payload).run (Sim.exec u) s =
      (settleUpdate u workspace payload.id
        (s.ctx.taskStore.updateWithConfirm ((s.tape 0).storeEnv u) payload.id
          (updateArgs workspace payload)).1).run (Sim.exec u)
        (Sim.exec u (.updateTask payload.id (updateArgs workspace payload)) s).2 := by
  unfold handleUpdateTask requireRegistered
  rw [if_neg hreg, Prog.attempt, run_updateTask]

lemma tended_handleUpdateTask {s : Sim}
    (h : ¬CompletionRefused s.ctx.taskStore payload.id (updateArgs workspace payload)) :
    AllTended s ((handleUpdateTask u workspace payload).run (Sim.exec u) s).2 := by
  by_cases hreg : workspace = ""
  · subst hreg
    rw [run_handleUpdateTask_unregistered]
    exact refl_of AllTended s
  · let update : Cmd := .updateTask payload.id (updateArgs workspace payload)
    have hupdate : AllTended s (Sim.exec u update s).2 := respects_perform (c := update) rfl s
    rw [run_handleUpdateTask hreg]
    refine trans_of AllTended hupdate ?_
    cases hresult : (s.ctx.taskStore.updateWithConfirm ((s.tape 0).storeEnv u) payload.id
        (updateArgs workspace payload)).1 with
    | error e =>
      have hother : isCompletionRefusal e = false := by
        by_contra hrefusal
        have htrue : isCompletionRefusal e = true := by simpa using hrefusal
        exact h ((updateWithConfirm_refuses_iff _ _ _ _).mp ⟨e, hresult, htrue⟩)
      rw [settleUpdate, run_afterRefusal_of_not hother]
      exact refl_of AllTended _
    | ok task => exact respects_afterUpdate workspace task _

lemma mailbox_handleUpdateTask_of_refused {s : Sim} (hreg : workspace ≠ "")
    (h : CompletionRefused s.ctx.taskStore payload.id (updateArgs workspace payload)) (w : String) :
    (w = workspace →
      (((handleUpdateTask u workspace payload).run (Sim.exec u) s).2.ctx.mailbox w).unread ≠ []) ∧
    (((handleUpdateTask u workspace payload).run (Sim.exec u) s).2.ctx.mailbox w).wakePending =
      (s.ctx.mailbox w).wakePending ∧
    (w ≠ workspace →
      ((handleUpdateTask u workspace payload).run (Sim.exec u) s).2.ctx.mailbox w =
        s.ctx.mailbox w) := by
  obtain ⟨e, hresult, hrefusal⟩ :=
    (updateWithConfirm_refuses_iff ((s.tape 0).storeEnv u) _ _ _).mpr h
  rw [run_handleUpdateTask hreg, hresult, settleUpdate,
    ← mailbox_sim_of_quiet (u := u)
      (c := .updateTask payload.id (updateArgs workspace payload)) rfl]
  exact mailbox_afterRefusal hrefusal workspace payload.id w _

/-! ## Jobs -/

/-- The job is an update by `w` that the completion contract refuses. -/
def Job.Reminds (d : HandlerCtx) (w : String) : Job → Prop
  | .request (.updateTask workspace payload) =>
    workspace = w ∧ w ≠ "" ∧ CompletionRefused d.taskStore payload.id (updateArgs w payload)
  | _ => False

lemma respects_handle {request : Request} (h : ∀ workspace payload,
    request ≠ .updateTask workspace payload) :
    (handle u request).Respects (Sim.exec u) AllTended := by
  cases request with
  | register payload => exact respects_of_quiet (.bind (.call rfl) fun _ => .ret _)
  | unregister workspace => exact respects_of_quiet (quiet_handleUnregister workspace)
  | setStatus workspace status =>
    exact respects_of_quiet (.attempt fun _ _ => .bind (.call rfl) fun _ => .ret _)
  | recordMcpToolActivity workspace payload =>
    exact respects_of_quiet (quiet_handleRecordMcpToolActivity workspace payload)
  | sendMessage workspace payload => exact respects_handleSendMessage workspace payload
  | broadcast workspace payload => exact respects_handleBroadcast workspace payload
  | readMessages workspace payload => exact respects_handleReadMessages workspace payload
  | startTask workspace payload => exact respects_handleStartTask workspace payload
  | createTask workspace payload => exact respects_handleCreateTask workspace payload
  | getTask id => exact respects_of_quiet (quiet_handleGetTask id)
  | listTasks payload => exact respects_of_quiet (.bind (.call rfl) fun _ => .ret _)
  | updateTask workspace payload => exact absurd rfl (h workspace payload)
  | cancelTask workspace payload => exact respects_handleCancelTask workspace payload
  | removeTask workspace payload => exact respects_handleRemoveTask workspace payload
  | interveneTask workspace payload => exact respects_handleInterveneTask workspace payload

lemma Job.tended (hwake : job ≠ .wakePass)
    (hupdate : ∀ workspace payload, job ≠ .request (.updateTask workspace payload))
    (tape : Nat → Reading) (d : HandlerCtx) (w : String) :
    (d.mailbox w).Tended ((job.result u tape d).mailbox w) := by
  have hall : (job.program u).Respects (Sim.exec u) AllTended := by
    cases job with
    | request request =>
      refine .bind (respects_handle fun workspace payload heq => ?_) fun _ => .ret _
      exact hupdate workspace payload (congrArg Job.request heq)
    | disconnect workspace id => exact respects_of_quiet (.bind (.call rfl) fun _ => .ret _)
    | elsewhere workspace => exact respects_touchNow workspace
    | wakePass => exact absurd rfl hwake
    | recoverPass => exact respects_of_quiet quiet_recoverPass
    | nudgePass => exact respects_nudgePass
  exact hall ⟨d, tape⟩ w

lemma Job.result_updateTask (workspace : String) (payload : UpdateTaskPayload)
    (tape : Nat → Reading) (d : HandlerCtx) :
    (Job.request (.updateTask workspace payload)).result u tape d =
      ((handleUpdateTask u workspace payload).run (Sim.exec u) ⟨d, tape⟩).2.ctx := by
  unfold Job.result Job.program
  rw [Prog.run_bind]
  rfl

lemma Job.tended_updateTask (h : ¬(Job.request (.updateTask workspace payload)).Reminds d w)
    (tape : Nat → Reading) :
    (d.mailbox w).Tended
      (((Job.request (.updateTask workspace payload)).result u tape d).mailbox w) := by
  rw [Job.result_updateTask]
  by_cases hrefused : CompletionRefused d.taskStore payload.id (updateArgs workspace payload)
  · by_cases hreg : workspace = ""
    · subst hreg
      rw [run_handleUpdateTask_unregistered]
      exact ⟨id, id⟩
    · have hw : w ≠ workspace := by
        rintro rfl
        exact h ⟨rfl, hreg, hrefused⟩
      have hmail := mailbox_handleUpdateTask_of_refused (u := u) (s := ⟨d, tape⟩) hreg hrefused w
      rw [hmail.2.2 hw]
      exact ⟨id, id⟩
  · exact tended_handleUpdateTask (s := ⟨d, tape⟩) hrefused w

lemma Job.attended (hwake : job ≠ .wakePass) (h : ¬job.Reminds d w) (tape : Nat → Reading)
    (hd : (d.mailbox w).Attended) : ((job.result u tape d).mailbox w).Attended := by
  by_cases hupdate : ∃ workspace payload, job = .request (.updateTask workspace payload)
  · obtain ⟨workspace, payload, rfl⟩ := hupdate
    exact (Job.tended_updateTask h tape).attended hd
  · have hother : ∀ workspace payload, job ≠ .request (.updateTask workspace payload) :=
      fun workspace payload heq => hupdate ⟨workspace, payload, heq⟩
    exact (Job.tended hwake hother tape d w).attended hd

lemma Job.mailbox_of_reminds (h : job.Reminds d w) (tape : Nat → Reading) :
    ((job.result u tape d).mailbox w).unread ≠ [] ∧
      ((job.result u tape d).mailbox w).wakePending = (d.mailbox w).wakePending := by
  cases job with
  | request request =>
    cases request with
    | updateTask workspace payload =>
      obtain ⟨rfl, hreg, hrefused⟩ := h
      have hmail := mailbox_handleUpdateTask_of_refused (u := u) (s := ⟨d, tape⟩) hreg
        hrefused workspace
      rw [Job.result_updateTask]
      exact ⟨hmail.1 rfl, hmail.2.1⟩
    | _ => exact h.elim
  | _ => exact h.elim

/-- A pending wake always has unread mail. -/
theorem Job.backed (job : Job) {d : HandlerCtx} (tape : Nat → Reading)
    (hd : ∀ w, (d.mailbox w).Backed) (w : String) : ((job.result u tape d).mailbox w).Backed := by
  by_cases hreminds : job.Reminds d w
  · exact fun _ => (Job.mailbox_of_reminds hreminds tape).1
  · by_cases hwake : job = .wakePass
    · subst hwake
      unfold Job.result Job.program
      rw [Prog.run_bind]
      exact backed_process (s := ⟨d, tape⟩) hd w
    · by_cases hupdate : ∃ workspace payload, job = .request (.updateTask workspace payload)
      · obtain ⟨workspace, payload, rfl⟩ := hupdate
        exact (Job.tended_updateTask hreminds tape).backed (hd w)
      · have hother : ∀ workspace payload, job ≠ .request (.updateTask workspace payload) :=
          fun workspace payload heq => hupdate ⟨workspace, payload, heq⟩
        exact (Job.tended hwake hother tape d w).backed (hd w)

/-! ## Runs -/

namespace World

def unread (world : World) (w : String) : List Message :=
  match world with
  | .stopped _ => []
  | .running _ d => d.queue.inbox w

def wakePending (world : World) (w : String) : Bool :=
  match world with
  | .stopped _ => false
  | .running _ d => d.wakeScheduler.isPending w

def WakesOrRefuses (u : Unicode) (w : String) : World → Event → Prop
  | .running _ d, .run .wakePass tape =>
    ∃ outcome, (w, outcome) ∈ ((process u).run (Sim.exec u) ⟨d, tape⟩).1 ∧
      (outcome = .woken ∨ outcome = .refused)
  | _, _ => False

end World

def persistedInbox (file : FileContent (List (String × Option (List Message)))) (w : String) :
    List Message :=
  match file with
  | .holds entries => ((MessageQueue.inboxesOf entries)[w]?).getD []
  | .absent | .unreadable _ | .undecodable _ => []

structure StartReading.Loads (r : StartReading) (stateDir : String) (disk : Disk) : Prop where
  sharedValues : r.sharedValues.isOk = true
  memories : r.memories.isOk = true
  tasks : (TaskStore.load stateDir disk.tasks disk.legacyTasks).isOk = true
  teamStates : r.teamStates.isOk = true
  history : r.history.isOk = true

/-- The event leaves new mail for `w` without a wake: it is a start with persisted
mail, or an update by `w` that the completion contract refuses while nothing is
unread. -/
def World.LeavesUnscheduled (stateDir w : String) : World → Event → Prop
  | .stopped disk, .start r => r.Loads stateDir disk ∧ persistedInbox disk.queue w ≠ []
  | .running _ d, .run job _ => job.Reminds d w ∧ d.queue.inbox w = []
  | _, _ => False

lemma inbox_of_load {file : FileContent (List (String × Option (List Message)))}
    {queue : MessageQueue} (h : MessageQueue.load stateDir file = .ok queue) (w : String) :
    queue.inbox w = persistedInbox file w := by
  cases file with
  | absent =>
    cases h
    simp [MessageQueue.inbox, persistedInbox]
  | unreadable source => cases h
  | undecodable source => cases h
  | holds entries =>
    cases h
    rfl

lemma start_running {r : StartReading} {disk : Disk} {legacy : FileContent (List Task)}
    (h : start u stateDir r disk = .running legacy d) :
    r.Loads stateDir disk ∧
      ∀ w, d.queue.inbox w = persistedInbox disk.queue w ∧
        d.wakeScheduler.isPending w = false := by
  unfold start at h
  split at h
  · rename_i hfirst
    rw [Bool.and_eq_true] at hfirst
    cases hload : TaskStore.load stateDir disk.tasks disk.legacyTasks with
    | error e =>
      rw [hload] at h
      cases h
    | ok loaded =>
      rw [hload] at h
      dsimp only at h
      split at h
      · rename_i hteam
        cases hqueue : MessageQueue.load stateDir disk.queue with
        | error e =>
          rw [hqueue] at h
          cases h
        | ok queue =>
          rw [hqueue] at h
          dsimp only at h
          split at h
          · rename_i hhistory
            cases h
            refine ⟨⟨hfirst.1, hfirst.2, by rw [hload]; rfl, hteam, hhistory⟩, fun w => ?_⟩
            exact ⟨inbox_of_load hqueue w, by simp [WakeMap.isPending]⟩
          · cases h
      · cases h
  · cases h

lemma start_of_loads {r : StartReading} {disk : Disk} (h : r.Loads stateDir disk)
    (hmail : persistedInbox disk.queue w ≠ []) :
    ∃ legacy d, start u stateDir r disk = .running legacy d := by
  have htasks := h.tasks
  cases hload : TaskStore.load stateDir disk.tasks disk.legacyTasks with
  | error e =>
    rw [hload] at htasks
    cases htasks
  | ok loaded =>
    cases hfile : disk.queue with
    | holds entries =>
      simp [start, h.sharedValues, h.memories, hload, h.teamStates, h.history, hfile,
        MessageQueue.load]
    | _ =>
      rw [hfile] at hmail
      exact absurd rfl hmail

lemma wakePending_start (stateDir : String) (r : StartReading) (disk : Disk) (w : String) :
    (start u stateDir r disk).wakePending w = false := by
  cases hstart : start u stateDir r disk with
  | stopped disk' => rfl
  | running legacy d => exact ((start_running hstart).2 w).2

lemma unread_start_iff (stateDir : String) (r : StartReading) (disk : Disk) (w : String) :
    (start u stateDir r disk).unread w ≠ [] ↔
      r.Loads stateDir disk ∧ persistedInbox disk.queue w ≠ [] := by
  constructor
  · intro hunread
    cases hstart : start u stateDir r disk with
    | stopped disk' =>
      rw [hstart] at hunread
      exact absurd rfl hunread
    | running legacy d =>
      obtain ⟨hloads, hmailbox⟩ := start_running hstart
      rw [hstart, World.unread, (hmailbox w).1] at hunread
      exact ⟨hloads, hunread⟩
  · rintro ⟨hloads, hmail⟩
    obtain ⟨legacy, d, hstart⟩ := start_of_loads (u := u) hloads hmail
    rw [hstart, World.unread, ((start_running hstart).2 w).1]
    exact hmail

namespace World

def Backed (world : World) : Prop :=
  ∀ w, world.wakePending w = true → world.unread w ≠ []

lemma Step.backed {stateDir : String} {world world' : World} {event : Event}
    (hstep : Step u stateDir world event world') (h : world.Backed) : world'.Backed := by
  cases world with
  | stopped disk =>
    cases event with
    | start r =>
      cases hstep
      intro w hpending
      rw [wakePending_start] at hpending
      cases hpending
    | run job tape => cases hstep
    | flush write => cases hstep
    | stop => cases hstep
  | running legacy d =>
    cases event with
    | start r => cases hstep
    | run job tape =>
      cases hstep
      exact Job.backed job tape h
    | flush write =>
      cases hstep
      intro w hpending hempty
      rw [unread, MessageQueue.inbox_flush] at hempty
      exact h w hpending hempty
    | stop =>
      cases hstep
      intro w hpending
      cases hpending

lemma backed_of_run {stateDir : String} {world world' : World} {events : List Event}
    (hfresh : ∀ w, world.wakePending w = false)
    (hrun : Exec (Step u stateDir) world events world') : world'.Backed := by
  refine hrun.invariant (fun hstep => hstep.backed) fun w hpending => ?_
  rw [hfresh w] at hpending
  cases hpending

/-- Pending wakes have mail.  In every run of requests, wake passes, recovery passes, nudges,
flushes, stops and starts that begins with an empty scheduler, at every cap of the inboxes,
a workspace whose wake is pending has something unread. -/
theorem pending_wake_has_mail {stateDir : String} {world world' : World} {events : List Event}
    (hfresh : ∀ w, world.wakePending w = false) (hrun : Exec (Step u stateDir) world events world')
    (w : String) (hpending : world'.wakePending w = true) : world'.unread w ≠ [] :=
  backed_of_run hfresh hrun w hpending

end World

lemma Job.new_mail_iff (job : Job) (tape : Nat → Reading) (hbacked : (d.mailbox w).Backed) :
    ((d.mailbox w).unread = [] → ((job.result u tape d).mailbox w).unread ≠ [] →
      ((job.result u tape d).mailbox w).wakePending = true) ↔
    ¬(job.Reminds d w ∧ (d.mailbox w).unread = []) := by
  constructor
  · rintro hscheduled ⟨hreminds, hempty⟩
    obtain ⟨hunread, hwake⟩ := Job.mailbox_of_reminds (u := u) hreminds tape
    exact hbacked (hwake ▸ hscheduled hempty hunread) hempty
  · intro hcond hempty
    have hreminds : ¬job.Reminds d w := fun h => hcond ⟨h, hempty⟩
    by_cases hwake : job = .wakePass
    · -- Without mail no wake is pending, so the pass does not look at the workspace.
      subst hwake
      have hidle : (d.mailbox w).wakePending = false := by
        by_contra hpending
        exact hbacked (by simpa using hpending) hempty
      intro hunread
      unfold Job.result Job.program at hunread
      rw [Prog.run_bind] at hunread
      have hsame := mailbox_process_of_not_pending (u := u) (s := ⟨d, tape⟩) hidle
      have hsame' := congrArg Mailbox.unread hsame
      exact absurd (hsame'.trans hempty) hunread
    · exact Job.attended hwake hreminds tape fun hne => absurd hempty hne

/-- In every run, a step after which there is new mail for a workspace leaves a
pending wake for it, unless the step is a start with persisted mail or a refused
completion while nothing is unread; these leave none. -/
theorem new_mail_scheduled_iff {stateDir : String} {disk : Disk} {events : List Event}
    {world world' : World} {event : Event} (w : String)
    (hrun : Exec (World.Step u stateDir) (.stopped disk) events world)
    (hstep : World.Step u stateDir world event world') :
    (world.unread w = [] → world'.unread w ≠ [] →
      world'.wakePending w = true ∨ world.WakesOrRefuses u w event) ↔
    ¬world.LeavesUnscheduled stateDir w event := by
  have hbacked := World.backed_of_run (fun _ => rfl) hrun w
  cases world with
  | stopped disk' =>
    cases event with
    | start r =>
      cases hstep
      constructor
      · intro hscheduled hcond
        have hunread := (unread_start_iff (u := u) stateDir r disk' w).mpr hcond
        rcases hscheduled rfl hunread with hpending | hexcused
        · rw [wakePending_start] at hpending
          cases hpending
        · exact hexcused
      · intro hcond _ hunread
        exact absurd ((unread_start_iff stateDir r disk' w).mp hunread) hcond
    | run job tape => cases hstep
    | flush write => cases hstep
    | stop => cases hstep
  | running legacy d =>
    cases event with
    | start r => cases hstep
    | run job tape =>
      cases hstep
      have hjob := Job.new_mail_iff (u := u) job tape hbacked
      constructor
      · intro hscheduled hcond
        refine hjob.mp (fun hempty hunread => ?_) hcond
        rcases hscheduled hempty hunread with hpending | hexcused
        · exact hpending
        · cases job with
          | wakePass => exact hcond.1.elim
          | _ => exact hexcused.elim
      · intro hcond hempty hunread
        exact .inl (hjob.mpr hcond hempty hunread)
    | flush write =>
      cases hstep
      refine ⟨fun _ h => h, fun _ hempty hunread => ?_⟩
      rw [World.unread, MessageQueue.inbox_flush] at hunread
      exact absurd hempty hunread
    | stop =>
      cases hstep
      exact ⟨fun _ h => h, fun _ _ hunread => absurd rfl hunread⟩

/-! ## Three runs -/

def calmStart : StartReading where
  now := 0
  sessionExists := calmReading.sessionExists
  write := .done
  sharedValues := .ok ()
  memories := .ok ()
  teamStates := .ok ()
  history := .ok ()

/-- A new state directory. -/
def emptyDisk : Disk where
  tasks := .absent
  legacyTasks := .absent
  queue := .absent

/-- A state directory with a message for `bob`. -/
def mailedDisk : Disk where
  tasks := .absent
  legacyTasks := .absent
  queue := .holds [("bob", some [⟨"msg-1", "ann", "bob", "hello", "", 0⟩])]

/-- A state directory with a running task of `bob`. -/
def taskedDisk : Disk where
  tasks := .holds
    [{ TaskStore.newTask 0 "t" (plainInput "bob" "ann" "") with status := .inProgress }]
  legacyTasks := .absent
  queue := .absent

/-- `ann` writes to `bob`. -/
def greeting : Event :=
  .run (.request (.sendMessage "ann" ⟨"bob", "hello", ""⟩)) fun _ => calmReading

/-- `bob` reports the task as completed and declares nothing. -/
def bareCompletion : Event :=
  .run (.request (.updateTask "bob" ⟨"t", some .completed, none, none, none⟩)) fun _ => calmReading

def startedFrom (disk : Disk) : World :=
  start .ascii "/state" calmStart disk

lemma exec_startedFrom (disk : Disk) :
    Exec (World.Step .ascii "/state") (.stopped disk) [.start calmStart] (startedFrom disk) :=
  Exec.single rfl

lemma greeting_isSome :
    ((startedFrom emptyDisk).next .ascii "/state" greeting).isSome = true := by
  decide

/-- The message of `ann` is scheduled. -/
theorem greeting_scheduled :
    ((((startedFrom emptyDisk).next .ascii "/state" greeting).get greeting_isSome).wakePending
        "bob" = true ∨ (startedFrom emptyDisk).WakesOrRefuses .ascii "bob" greeting) := by
  refine (new_mail_scheduled_iff "bob" (exec_startedFrom emptyDisk)
    (Option.some_get greeting_isSome).symm).mpr ?_ ?_ ?_
  · intro h
    exact h.1
  · decide
  · decide

/-- The wake of `bob` has the message of `ann`. -/
theorem greeting_backed :
    (((startedFrom emptyDisk).next .ascii "/state" greeting).get greeting_isSome).unread "bob"
      ≠ [] := by
  have hrun : Exec (World.Step .ascii "/state") (startedFrom emptyDisk) [greeting]
      (((startedFrom emptyDisk).next .ascii "/state" greeting).get greeting_isSome) :=
    Exec.single (Option.some_get greeting_isSome).symm
  exact World.pending_wake_has_mail
    (fun w => wakePending_start "/state" calmStart emptyDisk w) hrun "bob" (by decide)

lemma bareCompletion_isSome :
    ((startedFrom taskedDisk).next .ascii "/state" bareCompletion).isSome = true := by
  decide

/-- Persisted mail is loaded without a wake, and a refused completion leaves its
reminder without one. -/
theorem new_mail_without_wake :
    ((startedFrom mailedDisk).unread "bob" ≠ [] ∧
      (startedFrom mailedDisk).wakePending "bob" = false) ∧
    ∃ world', World.Step .ascii "/state" (startedFrom taskedDisk) bareCompletion world' ∧
      (startedFrom taskedDisk).unread "bob" = [] ∧ world'.unread "bob" ≠ [] ∧
      world'.wakePending "bob" = false ∧
      ¬(startedFrom taskedDisk).WakesOrRefuses .ascii "bob" bareCompletion := by
  refine ⟨by decide, _, (Option.some_get bareCompletion_isSome).symm, by decide, ?_, ?_, id⟩
  · decide +kernel
  · decide +kernel

end Ax.Daemon
