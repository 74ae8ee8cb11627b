import Ax.Daemon.UniqueDispatch

/-!
# Ended tasks are left alone

A task ends when it is completed, failed, cancelled or removed.  No later job asks its assignee
to work on it: every site that enqueues a dispatch, a reminder or the report of a refused
completion does so for open tasks only, and an ended task stays ended.  What is unread when the
task ends is purged by the request that ends it, but only once the change has been written: if
the write fails the request ends with an error before the purge, while the task has ended in
memory.

Main results:

- Theorem `ended_not_prompted_iff`: nothing of an ended task is enqueued any more, and its assignee
  is left without such messages exactly if the end could be written or there were none.
- Theorem `unwritten_cancellation_prompts`: a cancellation that cannot be written.
-/

namespace Ax.Daemon

open TaskStore

variable {u : Unicode} {α : Type}

/-! ## Prompts -/

def isPromptOf (id : String) (msg : Message) : Bool :=
  (isDispatch msg || isRefusal msg) && msg.taskId = id

def Cmd.prompts (id : String) : Cmd → Bool
  | .enqueue msg => isPromptOf id msg
  | _ => false

namespace HandlerCtx

def Free (d : HandlerCtx) (id w : String) : Prop :=
  ∀ msg ∈ d.queue.inbox w, isPromptOf id msg = false

def Ended (d : HandlerCtx) (id : String) : Prop :=
  ∃ task, d.taskStore.inner.get id = some task ∧
    (isTerminalStatus task.status = true ∨ task.removedAt ≠ none)

lemma Ended.not_hasOpen {d : HandlerCtx} {id : String} (h : d.Ended id) (w : String) :
    ¬d.HasOpen id w := by
  obtain ⟨task, hget, hended⟩ := h
  rintro ⟨task', hget', _, hopen⟩
  obtain rfl := Option.some.inj (hget.symm.trans hget')
  rcases hended with hterminal | hremoved
  · have hstatus := hopen.status
    cases hs : task.status <;> simp_all [isTerminalStatus, isOpenStatus]
  · exact hremoved hopen.live

end HandlerCtx

variable {c : Cmd} {id w : String} {s : Sim}

lemma ended_exec (hnamed : c.Named u s) (h : s.ctx.Ended id) :
    (Sim.exec u c s).2.ctx.Ended id := by
  obtain ⟨task, hget, hended⟩ := h
  rcases storeStep_exec hnamed.fresh with hsame | ⟨call, _, hstep⟩
  · refine ⟨task, ?_, hended⟩
    simp only [Sim.exec, hsame]
    exact hget
  · obtain ⟨task', hget', hterminal, hremoved⟩ :=
      settled_recordRelation.storeStep hstep id task hget
    refine ⟨task', hget', hended.imp (fun h => ?_) fun h => ?_⟩
    · rw [hterminal h]
      exact h
    · rw [hremoved h]
      exact h

lemma not_prompts_of_ended (hc : c.Sanctioned s) (h : s.ctx.Ended id) : c.prompts id = false := by
  cases c with
  | enqueue msg =>
    refine Bool.eq_false_iff.mpr fun hprompt => ?_
    obtain ⟨hkind, hid⟩ := Bool.and_eq_true_iff.mp hprompt
    obtain rfl := of_decide_eq_true hid
    rcases Bool.or_eq_true_iff.mp hkind with hdispatch | hrefusal
    · exact h.not_hasOpen _ (hc.1 hdispatch).1
    · exact h.not_hasOpen _ (hc.2 hrefusal)
  | _ => rfl

lemma free_exec (hc : c.prompts id = false) (h : s.ctx.Free id w) :
    (Sim.exec u c s).2.ctx.Free id w := by
  intro msg hmem
  rcases mem_inbox_exec hmem with hold | ⟨sent, rfl, _, rfl⟩
  · exact h msg hold
  · exact hc

lemma free_of_plain {p : Program α} (h : p.Uses Cmd.Plain) (hs : s.ctx.Free id w) :
    (p.run (Sim.exec u) s).2.ctx.Free id w := by
  refine Prog.Uses.preserves (P := fun s => s.ctx.Free id w) (fun c s hc hs => ?_) h s hs
  refine free_exec ?_ hs
  cases c with
  | enqueue msg => simp [Cmd.prompts, isPromptOf, hc.1, hc.2]
  | _ => rfl

lemma free_purgeTaskMessages (hid : IsUuid id) (w : String) (s : Sim) :
    ((purgeTaskMessages w id).run (Sim.exec u) s).2.ctx.Free id w := by
  unfold purgeTaskMessages
  rw [Prog.run_bind]
  have hplain := plain_of_serves (w := w) (serves_cancelWakeIfDrained w)
  refine free_of_plain hplain fun msg hmem => ?_
  rw [Prog.run_call] at hmem
  simp only [Sim.exec, Cmd.exec] at hmem
  rw [MessageQueue.inbox_removeTaskMessages, hid.trim_eq, if_pos ⟨rfl, hid.ne_empty⟩] at hmem
  have hother : messageTaskId u msg ≠ id := by simpa using (List.mem_filter.mp hmem).2
  refine Bool.eq_false_iff.mpr fun hprompt => hother ?_
  obtain rfl := of_decide_eq_true (Bool.and_eq_true_iff.mp hprompt).2
  exact messageTaskId_of_tag hid

/-! ## The request that ends a task -/

lemma free_afterUpdate {task : Task} (hid : IsUuid task.id)
    (hterminal : isTerminalStatus task.status = true) (workspace : String) (s : Sim) :
    ((afterUpdate u workspace task).run (Sim.exec u) s).2.ctx.Free task.id task.assignee := by
  have hplan : planTaskStateFollowup task = .cleanupTerminal task.assignee task.id := by
    unfold planTaskStateFollowup
    cases hstatus : task.status <;> simp_all [isTerminalStatus]
  unfold afterUpdate applyTaskStateFollowup
  rw [hplan]
  dsimp only
  rw [Prog.run_bind, Prog.run_bind, Prog.run_bind]
  refine free_of_plain (.ret _) ?_
  have hnotice : Serves (fun _ _ => True) allTasks plainMail workspace
      (notifyCreatorOfTerminalStatus u task) :=
    serves_notifyCreatorOfTerminalStatus notifies_plainMail trivial
  exact free_of_plain (plain_of_serves hnotice) (free_purgeTaskMessages hid _ _)

namespace Asked

def answer (u : Unicode) (a : Asked) (d : HandlerCtx) : Except String Response :=
  ((handle u a.request).run (Sim.exec u) ⟨d, a.tape⟩).1

/-- The request completes, fails or cancels the task as an `update_task` or a `cancel_task`, or
removes it as a `remove_task`. -/
def Ends (u : Unicode) (a : Asked) (task : Task) (d : HandlerCtx) : Prop :=
  ∃ task', (a.after u d).taskStore.inner.get task.id = some task' ∧
    (((∃ workspace payload, a.request = .updateTask workspace payload ∧ payload.id = task.id) ∨
        ∃ workspace payload, a.request = .cancelTask workspace payload ∧ payload.id = task.id) ∧
      isTerminalStatus task.status = false ∧ isTerminalStatus task'.status = true ∨
    (∃ workspace payload, a.request = .removeTask workspace payload ∧ payload.id = task.id) ∧
      task.removedAt = none ∧ task'.removedAt ≠ none)

def stint (a : Asked) : Stint where
  job := .request a.request
  tape := a.tape

lemma Ends.ended {a : Asked} {task : Task} {d : HandlerCtx} (h : a.Ends u task d) :
    (a.after u d).Ended task.id := by
  obtain ⟨task', hget, ⟨_, _, hterminal⟩ | ⟨_, _, hremoved⟩⟩ := h
  · exact ⟨task', hget, .inl hterminal⟩
  · exact ⟨task', hget, .inr hremoved⟩

variable {a : Asked} {d : HandlerCtx} {id w : String} {task : Task}

lemma isOk_iff_persists {env : StoreEnv} {s : TaskStore} {check keeps : Task → Prop}
    {rewrite : Task → Task} {answer : Except TaskStoreError Task × TaskStore} {task' : Task}
    (h : Rewriting env s id check keeps rewrite answer) (hget : s.inner.get id = some task)
    (hget' : answer.2.inner.get id = some task') (hne : task ≠ task') :
    answer.1.isOk = true ↔ Persists s env := by
  cases h with
  | refused => exact absurd (Option.some.inj (hget.symm.trans hget')) hne
  | kept => exact absurd (Option.some.inj (hget.symm.trans hget')) hne
  | @committed t =>
    by_cases hwritten : Persists s env
    · simp [commit_of_persists hwritten, hwritten, Except.isOk, Except.toBool]
    · obtain ⟨e, herror⟩ := commit_of_not_persists hwritten
        (storeAndRefresh s.inner (rewrite t) env.now) (rewrite t)
      simp [herror, hwritten, Except.isOk, Except.toBool]

variable {task' : Task} {workspace : String}

/-- A request that goes on with the answer of the store frees the inbox exactly if its change is
written, or the inbox was free before. -/
lemma free_after_iff_of_run {k : Except TaskStoreError Task → Handler}
    {result : Except TaskStoreError Task × TaskStore} {s : Sim} {check keeps : Task → Prop}
    {rewrite : Task → Task}
    (hrun : (handle u a.request).run (Sim.exec u) ⟨d, a.tape⟩ = (k result.1).run (Sim.exec u) s)
    (hctx : s.ctx.queue = d.queue ∧ s.ctx.taskStore = result.2)
    (hkeeps : (k result.1).Uses Cmd.KeepsStore)
    (hrewriting : Rewriting (a.env u) d.taskStore id check keeps rewrite result)
    (hget : d.taskStore.inner.get id = some task)
    (hget' : (a.after u d).taskStore.inner.get id = some task') (hne : task ≠ task')
    (hok : ∀ answer, result.1 = .ok answer → result.2.inner.get id = some task' →
      ((k (.ok answer)).run (Sim.exec u) s).2.ctx.Free id w)
    (herror : ∀ e, result.1 = .error e → result.2.inner.get id = some task' →
      ∃ text, (k (.error e)).run (Sim.exec u) s = (.error text, s)) :
    (a.after u d).Free id w ↔ Persists d.taskStore (a.env u) ∨ d.Free id w := by
  rw [after_eq, hrun, taskStore_of_uses hkeeps, hctx.2] at hget'
  rw [after_eq, hrun, ← isOk_iff_persists hrewriting hget hget' hne]
  cases hresult : result.1 with
  | ok answer => exact ⟨fun _ => .inl rfl, fun _ => hok answer hresult hget'⟩
  | error e =>
    obtain ⟨text, hend⟩ := herror e hresult hget'
    rw [hend]
    unfold HandlerCtx.Free
    rw [hctx.1]
    exact ⟨.inr, fun h => h.resolve_left (by simp [Except.isOk, Except.toBool])⟩

lemma assignee_of_call (call : StoreCall) {s : TaskStore} (hfresh : call.Fresh s)
    (hget : s.inner.get id = some task) (hget' : (call.apply s).inner.get id = some task') :
    task'.assignee = task.assignee := by
  obtain ⟨task₂, hget₂, hassignee⟩ := assignee_recordRelation.storeStep ⟨hfresh, rfl⟩ id task hget
  rw [← Option.some.inj (hget₂.symm.trans hget')]
  exact hassignee

lemma free_of_call (call : StoreCall) {s : TaskStore} (hfresh : call.Fresh s) (hid : IsUuid id)
    (hget : s.inner.get id = some task) (hget' : (call.apply s).inner.get id = some task')
    (hterminal : isTerminalStatus task'.status = true) (workspace : String) (t : Sim) :
    ((afterUpdate u workspace task').run (Sim.exec u) t).2.ctx.Free id task.assignee := by
  obtain rfl := KeyedMap.key_of_get hget'
  rw [← assignee_of_call call hfresh hget hget']
  exact free_afterUpdate hid hterminal workspace t

lemma registered_of_changed (hget : d.taskStore.inner.get id = some task)
    (hget' : (a.after u d).taskStore.inner.get id = some task') (hne : task ≠ task')
    (hrun : workspace = "" → (handle u a.request).run (Sim.exec u) ⟨d, a.tape⟩ =
      (.error "not registered", ⟨d, a.tape⟩)) : workspace ≠ "" := by
  intro hnone
  rw [after_eq, hrun hnone] at hget'
  exact hne (Option.some.inj (hget.symm.trans hget'))

lemma free_after_update {payload : UpdateTaskPayload} (hid : IsUuid payload.id)
    (hrequest : a.request = .updateTask workspace payload)
    (hget : d.taskStore.inner.get payload.id = some task)
    (hget' : (a.after u d).taskStore.inner.get payload.id = some task') (hne : task ≠ task')
    (hterminal : isTerminalStatus task'.status = true) :
    (a.after u d).Free payload.id task.assignee ↔
      Persists d.taskStore (a.env u) ∨ d.Free payload.id task.assignee := by
  have hreg : workspace ≠ "" := registered_of_changed hget hget' hne fun h => by
    rw [hrequest, h]
    rfl
  have hrun : (handle u a.request).run (Sim.exec u) ⟨d, a.tape⟩ =
      (settleUpdate u workspace payload.id (d.taskStore.updateWithConfirm (a.env u) payload.id
        (updateArgs workspace payload)).1).run (Sim.exec u)
        (Sim.exec u (.updateTask payload.id (updateArgs workspace payload)) ⟨d, a.tape⟩).2 := by
    rw [hrequest]
    exact run_handleUpdateTask hreg payload _
  refine free_after_iff_of_run hrun ⟨rfl, rfl⟩
    ((followsUp_settleUpdate workspace payload.id).keeps _) rewriting_update hget hget' hne
    (fun answer hanswer hget' => ?_) fun e hanswer hget' => ?_
  · obtain rfl := Option.some.inj (hget'.symm.trans (accepted_update hanswer).stored)
    exact free_of_call ⟨a.env u, .updateWithConfirm payload.id _⟩ trivial hid hget hget'
      hterminal workspace _
  · -- A refused completion would leave the task open.
    have hother : isCompletionRefusal e = false := by
      refine Bool.eq_false_iff.mpr fun hrefusal => ?_
      obtain ⟨hkept, hopen⟩ := open_of_refusal hanswer hrefusal
      rw [hkept] at hget'
      exact HandlerCtx.Ended.not_hasOpen ⟨task', hget', .inl hterminal⟩ _ hopen
    rw [settleUpdate, afterRefusal, if_neg (by simp [hother])]
    exact ⟨_, rfl⟩

lemma free_after_cancel {payload : CloseTaskPayload} (hid : IsUuid payload.id)
    (hrequest : a.request = .cancelTask workspace payload)
    (hget : d.taskStore.inner.get payload.id = some task)
    (hget' : (a.after u d).taskStore.inner.get payload.id = some task') (hne : task ≠ task')
    (hterminal : isTerminalStatus task'.status = true) :
    (a.after u d).Free payload.id task.assignee ↔
      Persists d.taskStore (a.env u) ∨ d.Free payload.id task.assignee := by
  have hreg : workspace ≠ "" := registered_of_changed hget hget' hne fun h => by
    rw [hrequest, h]
    rfl
  let result := d.taskStore.cancel (a.env u) payload.id payload.reason workspace
    payload.expectedVersion
  let k : Except TaskStoreError Task → Handler := fun answer =>
    Prog.attempt (answer.mapError (TaskStoreError.message u)) (afterUpdate u workspace)
  let c : Cmd := .cancelTask payload.id payload.reason workspace payload.expectedVersion
  have hrun : (handle u a.request).run (Sim.exec u) ⟨d, a.tape⟩ =
      (k result.1).run (Sim.exec u) (Sim.exec u c ⟨d, a.tape⟩).2 := by
    rw [hrequest]
    simp only [handle, handleCancelTask, requireRegistered, if_neg hreg, Prog.attempt]
    rw [Prog.run_bind]
    rfl
  refine free_after_iff_of_run hrun ⟨rfl, rfl⟩ ((followsUp_cancellation workspace).keeps _)
    rewriting_cancel hget hget' hne (fun answer hanswer hget' => ?_) fun e _ _ => ⟨_, rfl⟩
  obtain rfl := Option.some.inj (hget'.symm.trans (accepted_cancel hanswer).stored)
  exact free_of_call ⟨a.env u, .cancel payload.id _ _ _⟩ trivial hid hget hget' hterminal
    workspace _

lemma free_after_remove {payload : CloseTaskPayload} (hid : IsUuid payload.id)
    (hrequest : a.request = .removeTask workspace payload)
    (hget : d.taskStore.inner.get payload.id = some task)
    (hget' : (a.after u d).taskStore.inner.get payload.id = some task') (hne : task ≠ task') :
    (a.after u d).Free payload.id task.assignee ↔
      Persists d.taskStore (a.env u) ∨ d.Free payload.id task.assignee := by
  have hreg : workspace ≠ "" := registered_of_changed hget hget' hne fun h => by
    rw [hrequest, h]
    rfl
  let result := d.taskStore.remove (a.env u) payload.id payload.reason workspace
    payload.expectedVersion
  let k : Except TaskStoreError Task → Handler := fun answer =>
    Prog.attempt (answer.mapError (TaskStoreError.message u)) fun task => do
      touchNow workspace
      purgeTaskMessages task.assignee task.id
      return .ok (.task task)
  let c : Cmd := .removeTask payload.id payload.reason workspace payload.expectedVersion
  have hrun : (handle u a.request).run (Sim.exec u) ⟨d, a.tape⟩ =
      (k result.1).run (Sim.exec u) (Sim.exec u c ⟨d, a.tape⟩).2 := by
    rw [hrequest]
    simp only [handle, handleRemoveTask, requireRegistered, if_neg hreg, Prog.attempt]
    rw [Prog.run_bind]
    rfl
  have hkeeps : (k result.1).Uses Cmd.KeepsStore := by
    cases result.1 with
    | error e => exact .ret _
    | ok task =>
      exact .bind (keepsStore_touchNow workspace) fun _ =>
        .bind (keepsStore_purgeTaskMessages _ _) fun _ => .ret _
  refine free_after_iff_of_run hrun ⟨rfl, rfl⟩ hkeeps rewriting_remove hget hget' hne
    (fun answer hanswer _ => ?_) fun e _ _ => ⟨_, rfl⟩
  have hstored := (accepted_remove hanswer).stored
  have hkey : answer.id = payload.id := KeyedMap.key_of_get hstored
  have hassignee : answer.assignee = task.assignee :=
    assignee_of_call ⟨a.env u, .remove payload.id _ _ _⟩ trivial hget hstored
  have hanswered : k (.ok answer) = (touchNow workspace >>= fun _ =>
      purgeTaskMessages answer.assignee answer.id >>= fun _ =>
        pure (.ok (.task answer)) : Handler) := rfl
  rw [hanswered, Prog.run_bind, Prog.run_bind, Prog.run_pure, hkey, hassignee]
  dsimp only
  exact free_purgeTaskMessages hid task.assignee _

lemma free_after_iff (hsound : d.Sound) (hget : d.taskStore.inner.get task.id = some task)
    (h : a.Ends u task d) :
    (a.after u d).Free task.id task.assignee ↔
      Persists d.taskStore (a.env u) ∨ d.Free task.id task.assignee := by
  have hid : IsUuid task.id := (hsound.linked task.id task hget).uuid
  obtain ⟨task', hget', ⟨hrequest, hopen, hterminal⟩ | ⟨hrequest, hlive, hremoved⟩⟩ := h
  · have hne : task ≠ task' := by
      rintro rfl
      cases hopen.symm.trans hterminal
    rcases hrequest with ⟨workspace, payload, hrequest, hsame⟩ |
      ⟨workspace, payload, hrequest, hsame⟩
    all_goals rw [← hsame] at hid hget hget' ⊢
    · exact free_after_update hid hrequest hget hget' hne hterminal
    · exact free_after_cancel hid hrequest hget hget' hne hterminal
  · have hne : task ≠ task' := by
      rintro rfl
      exact hremoved hlive
    obtain ⟨workspace, payload, hrequest, hsame⟩ := hrequest
    rw [← hsame] at hid hget hget' ⊢
    exact free_after_remove hid hrequest hget hget' hne

end Asked

/-! ## After the end -/

lemma Stint.not_prompts {e : Stint} {d : HandlerCtx} (hsound : d.Sound) (hnamed : e.Named u d)
    (h : d.Ended id) : ∀ c ∈ e.commands u d, c.prompts id = false := by
  refine (Stint.issues hsound hnamed).commands (I := fun s => s.ctx.Ended id) ?_ ?_ h
  · exact fun s c hc hs => ended_exec hc.2.1 hs
  · exact fun s c hc hs => not_prompts_of_ended hc.2.2 hs

lemma endedAndFree_exec (s : Sim) (c : Cmd) (_ : s.ctx.Sound) (hnamed : c.Named u s)
    (hc : c.Sanctioned s) (h : s.ctx.Ended id ∧ s.ctx.Free id w) :
    (Sim.exec u c s).2.ctx.Ended id ∧ (Sim.exec u c s).2.ctx.Free id w :=
  ⟨ended_exec hnamed h.1, free_exec (not_prompts_of_ended hc h.1) h.2⟩

/-- Ended tasks are not dispatched again.  Take a sequential run in which the request `a` completes,
fails, cancels or removes a task through `update_task`, `cancel_task` or `remove_task`.  No later
request, wake pass or reconcile pass enqueues a dispatch, a reminder or a rejection of the task.
After the request and ever after the inbox of its assignee holds none of them if and only if the
store is in memory only, the write of the change succeeds, or the inbox held none before: where the
change cannot be written, the task has ended in memory but its messages stay. -/
theorem ended_not_prompted_iff {d t : HandlerCtx} {before after : List Stint} {a : Asked}
    {task : Task} (hsound : d.Sound)
    (hnamed : Exec.EachStep (Stint.Step u) (Stint.Named u) d (before ++ a.stint :: after))
    (hbefore : Exec (Stint.Step u) d before t) (hget : t.taskStore.inner.get task.id = some task)
    (hends : a.Ends u task t) :
    Exec.EachStep (Stint.Step u) (fun d e => ∀ c ∈ e.commands u d, c.prompts task.id = false)
        (a.after u t) after ∧
      ((a.after u t).Free task.id task.assignee ∧
          Exec.EachStep (Stint.Step u)
            (fun d e => ∀ x ∈ e.passed u d, x.Free task.id task.assignee) (a.after u t) after ↔
        t.taskStore.filePath = none ∨ (a.env u).write = .done ∨ t.Free task.id task.assignee) := by
  have hsounds := Stint.eachState (u := u) (I := fun _ => True) (fun _ _ _ _ _ h => h) hsound
    trivial hnamed
  have hsoundT : t.Sound := (hsounds before (a.stint :: after) t rfl hbefore).1
  have hstep : Stint.Step u t a.stint (a.after u t) := rfl
  have hsoundA : (a.after u t).Sound :=
    (hsounds (before ++ [a.stint]) after _ (by simp) (hbefore.append (.single hstep))).1
  have hrest : Exec.EachStep (Stint.Step u) (Stint.Named u) (a.after u t) after := by
    have hsplit : before ++ a.stint :: after = (before ++ [a.stint]) ++ after := by simp
    rw [hsplit] at hnamed
    exact hnamed.drop (hbefore.append (.single hstep))
  refine ⟨?_, ?_⟩
  · have hended := Stint.eachState (u := u) (I := fun d => d.Ended task.id)
      (fun _ _ _ hnamed _ h => ended_exec hnamed h) hsoundA hends.ended hrest
    intro pre e post x hsplit hexec
    obtain ⟨hsoundX, hendedX⟩ := hended pre (e :: post) x hsplit hexec
    exact Stint.not_prompts hsoundX (hrest pre e post x hsplit hexec) hendedX
  · rw [← or_assoc]
    refine Iff.trans ?_ (Asked.free_after_iff hsoundT hget hends)
    refine ⟨And.left, fun hfree => ⟨hfree, ?_⟩⟩
    have hstates := Stint.eachState (I := fun d => d.Ended task.id ∧ d.Free task.id task.assignee)
      endedAndFree_exec hsoundA ⟨hends.ended, hfree⟩ hrest
    intro pre e post x hsplit hexec y hy
    obtain ⟨hsoundX, hendedX⟩ := hstates pre (e :: post) x hsplit hexec
    exact (Stint.forall_passed (I := fun d => d.Ended task.id ∧ d.Free task.id task.assignee)
      endedAndFree_exec hsoundX (hrest pre e post x hsplit hexec) hendedX y hy).2

/-! ## Two runs -/

/-- A daemon with a state directory. -/
def storedCtx : HandlerCtx :=
  { newCtx with taskStore := ⟨some "tasks-state.json", KeyedMap.empty, .absent⟩ }

lemma sound_storedCtx : storedCtx.Sound where
  linked id t hget := by
    simp only [storedCtx, KeyedMap.get_empty] at hget
    cases hget
  known _ _ hmem := by cases hmem

/-- The daemon after `ann` has started a task of `bob`. -/
def startedCtx : HandlerCtx :=
  (Job.request startForBob).result .ascii (fun _ => calmReading) storedCtx

/-- `ann` cancels the task; the outcome of the write is given. -/
def cancelWith (write : WriteOutcome) : Asked where
  request := .cancelTask "ann" ⟨calmReading.uuid, "", none⟩
  tape _ := { calmReading with write := write }

lemma ends_cancelWith {write : WriteOutcome} {task : Task}
    (hget : startedCtx.taskStore.inner.get calmReading.uuid = some task)
    (hopen : isTerminalStatus task.status = false)
    (h : ((((cancelWith write).after .ascii startedCtx).taskStore.inner.get
      calmReading.uuid).any fun task => isTerminalStatus task.status) = true) :
    (cancelWith write).Ends .ascii task startedCtx := by
  have hid : task.id = calmReading.uuid := KeyedMap.key_of_get hget
  obtain ⟨task', hget', hterminal⟩ := (Option.any_eq_true _ _).mp h
  exact ⟨task', hid ▸ hget', .inl ⟨.inr ⟨_, _, rfl, hid.symm⟩, hopen, hterminal⟩⟩

/-- The task that `ann` has started. -/
lemma get_startedCtx : ∃ task, startedCtx.taskStore.inner.get calmReading.uuid = some task ∧
    task.id = calmReading.uuid ∧ task.assignee = "bob" ∧ isTerminalStatus task.status = false := by
  have hstarted : ((startedCtx.taskStore.inner.get calmReading.uuid).any fun task =>
      task.assignee = "bob" ∧ isTerminalStatus task.status = false) = true := by
    decide +kernel
  obtain ⟨task, hget, h⟩ := (Option.any_eq_true _ _).mp hstarted
  exact ⟨task, hget, KeyedMap.key_of_get hget, of_decide_eq_true h⟩

def laterPasses : List Stint :=
  [calmly .wakePass, calmly .nudgePass]

/-- A cancellation that is written leaves nothing of the task to `bob`. -/
theorem written_cancellation_free :
    ((cancelWith .done).after .ascii startedCtx).Free calmReading.uuid "bob" := by
  have hnamed : checkSteps (fun d e => some (e.job.result .ascii e.tape d))
      (fun d e => decide (e.Named .ascii d)) storedCtx
      ([calmly (.request startForBob)] ++ (cancelWith .done).stint :: laterPasses) = true := by
    decide +kernel
  have hcancelled : ((((cancelWith .done).after .ascii startedCtx).taskStore.inner.get
      calmReading.uuid).any fun task => isTerminalStatus task.status) = true := by
    decide +kernel
  obtain ⟨task, hget, hid, hassignee, hopen⟩ := get_startedCtx
  have hrun := ended_not_prompted_iff sound_storedCtx
    (eachStep_of_checkSteps (fun _ _ _ h => congrArg some h.symm)
      (fun _ _ => of_decide_eq_true) hnamed)
    (.single rfl) (hid ▸ hget) (ends_cancelWith hget hopen hcancelled)
  rw [hassignee, hid] at hrun
  exact (hrun.2.mpr (.inr (.inl rfl))).1

/-- A cancellation that cannot be written is refused, but the task is cancelled in memory, and
its dispatch waits for `bob`. -/
theorem unwritten_cancellation_prompts :
    (∃ task, startedCtx.taskStore.inner.get task.id = some task ∧
        (cancelWith (.writeFailed "disk full")).Ends .ascii task startedCtx) ∧
      ((cancelWith (.writeFailed "disk full")).answer .ascii startedCtx).isOk = false ∧
      ¬((cancelWith (.writeFailed "disk full")).after .ascii startedCtx).Free calmReading.uuid
        "bob" := by
  have hcancelled : ((((cancelWith (.writeFailed "disk full")).after .ascii
        startedCtx).taskStore.inner.get calmReading.uuid).any
          fun task => isTerminalStatus task.status) = true ∧
      ((cancelWith (.writeFailed "disk full")).answer .ascii startedCtx).isOk = false ∧
      ¬∀ msg ∈ ((cancelWith (.writeFailed "disk full")).after .ascii startedCtx).queue.inbox "bob",
        isPromptOf calmReading.uuid msg = false := by
    decide +kernel
  obtain ⟨task, hget, hid, _, hopen⟩ := get_startedCtx
  exact ⟨⟨task, hid ▸ hget, ends_cancelWith hget hopen hcancelled.1⟩, hcancelled.2⟩

end Ax.Daemon
