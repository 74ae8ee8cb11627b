import Ax.Foundation.Fallible
import Ax.Daemon.StoreCommands
import Ax.Daemon.TaskLink

/-!
# Notices to the creator of a task

When an update or a cancellation leaves a task completed, failed, cancelled or blocked, the
daemon tells its creator.  It looks at the status that the store answers with, not at the one
before: an accepted update that leaves the status alone, such as a log line on a blocked task,
repeats the notice, and a change that could not be written is never reported.

Main results:

- Theorem `notices_match_iff`: every request enqueues one notice per change into such a
  status exactly if no request repeats an outcome and none fails to be written.
-/

namespace Ax.Daemon

open TaskStore

/-! ## Outcomes -/

/-- The statuses that are reported to the creator. -/
def isOutcome : TaskStatus → Bool
  | .completed | .failed | .cancelled | .blocked => true
  | .pending | .inProgress => false

def noticeHead (status : TaskStatus) : String :=
  "[task-" ++ statusLabel status ++ "] "

def isNotice (content : String) : Bool :=
  [TaskStatus.completed, .failed, .cancelled, .blocked].any fun status =>
    (noticeHead status).toList.isPrefixOf content.toList

def Cmd.notifies (creator : String) : Cmd → Bool
  | .enqueue msg => decide (msg.recipient = creator) && isNotice msg.content
  | _ => false

def Cmd.KeepsStore (c : Cmd) : Prop :=
  ∀ u r, c.storeCall u r = none

variable {u : Unicode} {α β : Type} {creator : String}

def notices (u : Unicode) (creator : String) (p : Program α) (s : Sim) : Nat :=
  (p.commands (Sim.exec u) s).countP (Cmd.notifies creator)

lemma notices_bind (p : Program α) (f : α → Program β) (s : Sim) :
    notices u creator (p >>= f) s =
      notices u creator p s +
        notices u creator (f (p.run (Sim.exec u) s).1) (p.run (Sim.exec u) s).2 := by
  unfold notices
  rw [Prog.commands_bind, List.countP_append]

lemma notices_of_uses {p : Program α} (h : p.Uses fun c => c.notifies creator = false)
    (s : Sim) : notices u creator p s = 0 := by
  refine List.countP_eq_zero.mpr fun c hc => ?_
  rw [h.runs (Prog.runs_run p s) c hc]
  exact Bool.false_ne_true

lemma taskStore_of_uses {p : Program α} (h : p.Uses Cmd.KeepsStore) (s : Sim) :
    (p.run (Sim.exec u) s).2.ctx.taskStore = s.ctx.taskStore := by
  refine Prog.Uses.preserves (P := fun t => t.ctx.taskStore = s.ctx.taskStore) ?_ h s rfl
  intro c t hc ht
  have hexec := exec_taskStore u (t.tape 0) t.ctx c
  rw [hc u (t.tape 0)] at hexec
  exact hexec.trans ht

/-! ## Texts -/

lemma terminalNotice_eq (task : Task) :
    ∃ rest, terminalNotice task = noticeHead task.status ++ rest := by
  have hlink : toString "] Task ID: " = "] " ++ "Task ID: " := rfl
  unfold terminalNotice noticeHead
  simp only [String.append_assoc]
  rw [append_link hlink]
  exact ⟨_, rfl⟩

lemma isNotice_terminalNotice {task : Task} (h : isOutcome task.status = true) :
    isNotice (terminalNotice task) = true := by
  obtain ⟨rest, hrest⟩ := terminalNotice_eq task
  refine List.any_eq_true.mpr ⟨task.status, ?_, List.isPrefixOf_iff_prefix.mpr ?_⟩
  · cases hstatus : task.status <;> simp_all [isOutcome]
  · rw [hrest, String.toList_append]
    exact List.prefix_append _ _

lemma refusal_head (id : String) (e : TaskStoreError) :
    "[task-completion-rejected] Task ID: ".toList <+: (completionRefusalNotice u id e).toList := by
  unfold completionRefusalNotice
  simp only [toString, String.toList_append, List.append_assoc]
  exact List.prefix_append _ _

lemma isNotice_completionRefusalNotice (id : String) (e : TaskStoreError) :
    isNotice (completionRefusalNotice u id e) = false := by
  have hhead := refusal_head (u := u) id e
  -- Each head is shorter than the start of the reminder, and differs from it.
  refine List.any_eq_false.mpr fun status hstatus hnotice => ?_
  have hnotice' := List.isPrefixOf_iff_prefix.mp hnotice
  have hshort : (noticeHead status).toList.length ≤
      "[task-completion-rejected] Task ID: ".toList.length := by
    cases status <;> decide
  have hstart := List.prefix_of_prefix_length_le hnotice' hhead hshort
  revert hstart
  cases status <;> decide

/-! ## Answers of the store -/

structure Accepts (task : Task) (status : TaskStatus) (written : Prop)
    (result : Except TaskStoreError Task × TaskStore) : Prop where
  stored : ∃ after, result.2.inner.get task.id = some after ∧ after.assignee = task.assignee ∧
    after.createdBy = task.createdBy ∧ after.status = status ∧ (written → result.1 = .ok after)
  failed : ¬written → ∃ e, result.1 = .error e

/-- The records are written, or need not be. -/
def Persists (s : TaskStore) (env : StoreEnv) : Prop :=
  s.filePath = none ∨ env.write = .done

instance (s : TaskStore) (env : StoreEnv) : Decidable (Persists s env) :=
  inferInstanceAs (Decidable (_ ∨ _))

variable {s : TaskStore}

lemma commit_of_persists {env : StoreEnv} (h : Persists s env) (inner : TaskMap) (task : Task) :
    (commit env s inner task).1 = .ok ((inner.get task.id).getD task) := by
  unfold commit persistLocked
  rcases h with hpath | hwrite
  · simp [hpath, Except.map]
  · cases hpath : s.filePath with
    | none => simp [Except.map]
    | some path => simp [hwrite, Except.map]

lemma commit_of_not_persists {env : StoreEnv} (h : ¬Persists s env) (inner : TaskMap)
    (task : Task) : ∃ e, (commit env s inner task).1 = .error e := by
  unfold Persists at h
  push Not at h
  obtain ⟨path, hpath⟩ := Option.ne_none_iff_exists'.mp h.1
  unfold commit persistLocked
  cases hwrite : env.write with
  | done => exact absurd hwrite h.2
  | encodeFailed source => exact ⟨.encode source, by simp [hpath, Except.map]⟩
  | writeFailed reason => exact ⟨.persist reason, by simp [hpath, Except.map]⟩

lemma accepts_rewrite {env : StoreEnv} {task task' : Task}
    (hframe : updateFrame task' = updateFrame (bump env.now task)) :
    Accepts task task'.status (Persists s env)
      (commit env s (storeAndRefresh s.inner task' env.now) task') := by
  have hid : task'.id = task.id :=
    (congrArg Task.id hframe :)
  have hassignee : task'.assignee = task.assignee :=
    (congrArg Task.assignee hframe :)
  have hcreator : task'.createdBy = task.createdBy :=
    (congrArg Task.createdBy hframe :)
  have hstored : ∃ after, (storeAndRefresh s.inner task' env.now).get task.id = some after ∧
      after.assignee = task.assignee ∧ after.createdBy = task.createdBy ∧
      after.status = task'.status := by
    rw [← hid]
    rcases get_refreshParentRollup (KeyedMap.get_put_self s.inner task') task'.parentTaskId env.now
      with hget | hget
    · exact ⟨task', hget, hassignee, hcreator, rfl⟩
    · refine ⟨_, hget, ?_, ?_, refreshRollup_status _ task' env.now⟩
      · rw [refreshRollup_frame]
        exact hassignee
      · rw [refreshRollup_frame]
        exact hcreator
  obtain ⟨after, hget, hparties⟩ := hstored
  refine ⟨⟨after, ?_, hparties.1, hparties.2.1, hparties.2.2, fun hwritten => ?_⟩, fun h => ?_⟩
  · rw [commit_inner]
    exact hget
  · rw [commit_of_persists hwritten, hid, hget]
    rfl
  · exact commit_of_not_persists h _ _

lemma accepts_update (env : StoreEnv) {task : Task} {a : UpdateArgs}
    (hget : s.inner.get task.id = some task) (hvalid : validateTaskUpdate task a = .ok ()) :
    Accepts task (a.status.getD task.status)
      ((applyUpdate env.unicode env.now a task).2 = true → Persists s env)
      (s.updateWithConfirm env task.id a) := by
  unfold updateWithConfirm
  rw [hget]
  dsimp only
  rw [hvalid]
  dsimp only
  have hstatus := applyUpdate_status env.unicode env.now a task
  cases hchanged : (applyUpdate env.unicode env.now a task).2 with
  | false =>
    have hself := applyUpdate_eq_self hchanged
    rw [hself] at hstatus
    refine ⟨⟨task, hget, rfl, rfl, hstatus, fun _ => rfl⟩, fun h => absurd (by simp) h⟩
  | true =>
    have haccepts := accepts_rewrite (s := s) (updateFrame_applyUpdate env.unicode env.now a task)
    refine ⟨?_, fun h => haccepts.failed fun hp => h fun _ => hp⟩
    obtain ⟨after, hstored, hassignee, hcreator, hafter, hok⟩ := haccepts.stored
    exact ⟨after, hstored, hassignee, hcreator, hafter.trans hstatus, fun h => hok (h rfl)⟩

lemma accepts_cancel (env : StoreEnv) {task : Task} (reason : String) {workspace : String}
    {expected : Option Int} (hget : s.inner.get task.id = some task)
    (hvalid : validateTaskControl task workspace expected true = .ok ())
    (hopen : isTerminalStatus task.status = false) :
    Accepts task .cancelled (Persists s env)
      (s.cancel env task.id reason workspace expected) := by
  unfold TaskStore.cancel
  rw [hget]
  dsimp only
  rw [hvalid]
  dsimp only
  rw [hopen]
  exact accepts_rewrite (updateFrame_cancelRecord env.now reason workspace task)

/-! ## Notices of a request -/

lemma notices_perform_bind {c : Cmd} (hc : c.notifies creator = false)
    (f : c.Result → Program α) (s : Sim) :
    notices u creator (perform c >>= f) s =
      notices u creator (f (Sim.exec u c s).1) (Sim.exec u c s).2 := by
  rw [notices_bind, notices_of_uses (.call hc), Nat.zero_add]
  rfl

variable (workspace : String)

lemma silent_touchNow : (touchNow workspace).Uses fun c => c.notifies creator = false :=
  .bind (.call rfl) fun _ => .call rfl

lemma silent_purgeTaskMessages (assignee taskId : String) :
    (purgeTaskMessages assignee taskId).Uses fun c => c.notifies creator = false := by
  refine .bind (.call rfl) fun _ => .bind (.call rfl) fun pending => ?_
  split
  · exact .call rfl
  · exact .ret _

lemma silent_afterRefusal (workspace taskId : String) (e : TaskStoreError) :
    (afterRefusal u workspace taskId e).Uses fun c => c.notifies creator = false := by
  unfold afterRefusal
  split
  · refine .bind (.bind (.call rfl) fun stamp => .call ?_) fun _ => .ret _
    simp [Cmd.notifies, taskAwareMessage, isNotice_completionRefusalNotice]
  · exact .ret _

/-- A name that notices reach: they are sent to the name without the white space around it. -/
def Addressed (creator : String) : Prop :=
  Text.trim creator = creator ∧ creator ≠ ""

instance (creator : String) : Decidable (Addressed creator) :=
  inferInstanceAs (Decidable (_ ∧ _))

section Creator

variable {task : Task} (hother : task.createdBy ≠ task.assignee)
include hother

lemma terminalNoticeRecipient_iff (h : isOutcome task.status = true) :
    terminalNoticeRecipient task = some task.createdBy ↔ Addressed task.createdBy := by
  have houtcome : terminalNoticeRecipient task =
      if Text.trim task.createdBy = "" ∨ Text.trim task.createdBy = task.assignee then none
      else some (Text.trim task.createdBy) := by
    unfold terminalNoticeRecipient
    cases hstatus : task.status <;> simp_all [isOutcome]
  rw [houtcome, Option.ite_none_left_eq_some, Option.some.injEq, Addressed]
  grind

lemma notices_notifyCreator (h : isOutcome task.status = true) (s : Sim) :
    notices u task.createdBy (notifyCreatorOfTerminalStatus u task) s =
      if Addressed task.createdBy then 1 else 0 := by
  simp only [← terminalNoticeRecipient_iff hother h]
  unfold notifyCreatorOfTerminalStatus
  cases terminalNoticeRecipient task with
  | none => exact notices_of_uses (.ret _) s
  | some recipient =>
    dsimp only
    have hschedule : ∀ t,
        notices u task.createdBy (perform (.schedule recipient task.assignee)) t = 0 :=
      notices_of_uses (.call rfl)
    rw [notices_perform_bind rfl, notices_bind, hschedule]
    simp only [Option.some.injEq]
    split
    · rename_i hrecipient
      have hnotice : (Cmd.enqueue (taskAwareMessage u (Sim.exec u .now s).1 task.assignee
          recipient (terminalNotice task))).notifies task.createdBy = true := by
        simp [Cmd.notifies, taskAwareMessage, hrecipient, isNotice_terminalNotice h]
      exact (List.countP_cons_of_pos hnotice).trans rfl
    · rename_i hrecipient
      refine notices_of_uses (.call ?_) _
      simp [Cmd.notifies, taskAwareMessage, hrecipient]

lemma notices_applyTaskStateFollowup (s : Sim) :
    notices u task.createdBy (applyTaskStateFollowup u task) s =
      if isOutcome task.status ∧ Addressed task.createdBy then 1 else 0 := by
  unfold applyTaskStateFollowup
  cases houtcome : isOutcome task.status with
  | false =>
    have hplan : planTaskStateFollowup task = .none := by
      unfold planTaskStateFollowup
      cases hstatus : task.status <;> simp_all [isOutcome]
    rw [hplan]
    exact notices_of_uses (.ret _) s
  | true =>
    have hplan : planTaskStateFollowup task = .cleanupTerminal task.assignee task.id := by
      unfold planTaskStateFollowup
      cases hstatus : task.status <;> simp_all [isOutcome]
    rw [hplan]
    dsimp only
    rw [notices_bind, notices_of_uses (silent_purgeTaskMessages _ _),
      notices_notifyCreator hother houtcome]
    simp

lemma notices_afterUpdate (workspace : String) (s : Sim) :
    notices u task.createdBy (afterUpdate u workspace task) s =
      if isOutcome task.status ∧ Addressed task.createdBy then 1 else 0 := by
  unfold afterUpdate
  rw [notices_bind, notices_of_uses (silent_touchNow workspace), notices_bind,
    notices_applyTaskStateFollowup hother, notices_of_uses (.ret _)]
  omega

end Creator

/-! ## Requests on a task -/

structure FollowsUp (u : Unicode) (workspace : String)
    (k : Except TaskStoreError Task → Handler) : Prop where
  ok : ∀ task, k (.ok task) = afterUpdate u workspace task
  silent : ∀ e creator, (k (.error e)).Uses fun c => c.notifies creator = false
  keeps : ∀ answer, (k answer).Uses Cmd.KeepsStore

lemma keepsStore_touchNow : (touchNow workspace).Uses Cmd.KeepsStore :=
  .bind (.call fun _ _ => rfl) fun _ => .call fun _ _ => rfl

lemma keepsStore_purgeTaskMessages (assignee taskId : String) :
    (purgeTaskMessages assignee taskId).Uses Cmd.KeepsStore := by
  refine .bind (.call fun _ _ => rfl) fun _ => .bind (.call fun _ _ => rfl) fun pending => ?_
  split
  · exact .call fun _ _ => rfl
  · exact .ret _

lemma keepsStore_afterUpdate (task : Task) :
    (afterUpdate u workspace task).Uses Cmd.KeepsStore := by
  refine .bind (keepsStore_touchNow workspace) fun _ => .bind ?_ fun _ => .ret _
  unfold applyTaskStateFollowup
  split
  · exact .ret _
  · refine .bind (keepsStore_purgeTaskMessages _ _) fun _ => ?_
    unfold notifyCreatorOfTerminalStatus
    split
    · exact .ret _
    · refine .bind (.call fun _ _ => rfl) fun _ => ?_
      exact .bind (.call fun _ _ => rfl) fun _ => .call fun _ _ => rfl

lemma followsUp_settleUpdate (workspace taskId : String) :
    FollowsUp u workspace (settleUpdate u workspace taskId) where
  ok _ := rfl
  silent e _ := silent_afterRefusal workspace taskId e
  keeps answer := by
    cases answer with
    | ok task => exact keepsStore_afterUpdate workspace task
    | error e =>
      simp only [settleUpdate, afterRefusal]
      split
      · refine .bind (.bind (.call fun _ _ => rfl) fun _ => .call fun _ _ => rfl) fun _ => ?_
        exact .ret _
      · exact .ret _

lemma followsUp_cancellation :
    FollowsUp u workspace fun answer =>
      Prog.attempt (answer.mapError (TaskStoreError.message u)) (afterUpdate u workspace) where
  ok _ := rfl
  silent _ _ := .ret _
  keeps answer := by
    cases answer with
    | ok task => exact keepsStore_afterUpdate workspace task
    | error e => exact .ret _

namespace Request

/-- The request is an `update_task` or a `cancel_task` of the task `id`. -/
def Closes (id : String) : Request → Prop
  | .updateTask _ payload => payload.id = id
  | .cancelTask _ payload => payload.id = id
  | _ => False

def accepted (task : Task) : Request → Option TaskStatus
  | .updateTask workspace payload =>
    if workspace ≠ "" ∧ validateTaskUpdate task (updateArgs workspace payload) = .ok () then
      some (payload.status.getD task.status)
    else none
  | .cancelTask workspace payload =>
    if workspace ≠ "" ∧
        validateTaskControl task workspace payload.expectedVersion true = .ok () ∧
        isTerminalStatus task.status = false then
      some .cancelled
    else none
  | _ => none

def changes (u : Unicode) (now : Timestamp) (task : Task) : Request → Bool
  | .updateTask workspace payload => (applyUpdate u now (updateArgs workspace payload) task).2
  | _ => true

end Request

structure Asked where
  request : Request
  tape : Nat → Reading

namespace Asked

def env (u : Unicode) (a : Asked) : StoreEnv :=
  (a.tape 0).storeEnv u

def after (u : Unicode) (a : Asked) (d : HandlerCtx) : HandlerCtx :=
  (Job.request a.request).result u a.tape d

def Written (u : Unicode) (a : Asked) (task : Task) (d : HandlerCtx) : Prop :=
  a.request.changes u (a.env u).now task = true → Persists d.taskStore (a.env u)

instance (u : Unicode) (a : Asked) (task : Task) (d : HandlerCtx) :
    Decidable (a.Written u task d) :=
  inferInstanceAs (Decidable (_ → _))

lemma after_eq (a : Asked) (d : HandlerCtx) :
    a.after u d = ((handle u a.request).run (Sim.exec u) ⟨d, a.tape⟩).2.ctx := by
  unfold after Job.result Job.program
  rw [Prog.run_bind]
  rfl

def notices (u : Unicode) (creator : String) (a : Asked) (d : HandlerCtx) : Nat :=
  Daemon.notices u creator (handle u a.request) ⟨d, a.tape⟩

structure Handled (u : Unicode) (a : Asked) (d : HandlerCtx)
    (result : Except TaskStoreError Task × TaskStore) : Prop where
  rest : ∃ workspace k s, FollowsUp u workspace k ∧ s.ctx.taskStore = result.2 ∧
    (∀ creator, a.notices u creator d = Daemon.notices u creator (k result.1) s) ∧
    a.after u d = ((k result.1).run (Sim.exec u) s).2.ctx

lemma handled_update {a : Asked} {workspace : String} {payload : UpdateTaskPayload}
    (hrequest : a.request = .updateTask workspace payload) (hreg : workspace ≠ "")
    (d : HandlerCtx) :
    a.Handled u d
      (d.taskStore.updateWithConfirm (a.env u) payload.id (updateArgs workspace payload)) := by
  let c : Cmd := .updateTask payload.id (updateArgs workspace payload)
  have hhandle : handle u a.request =
      (perform c >>= settleUpdate u workspace payload.id : Handler) := by
    rw [hrequest]
    simp only [handle, handleUpdateTask, requireRegistered, if_neg hreg, Prog.attempt]
    rfl
  refine ⟨workspace, settleUpdate u workspace payload.id, (Sim.exec u c ⟨d, a.tape⟩).2,
    followsUp_settleUpdate workspace payload.id, rfl, fun creator => ?_, ?_⟩
  · unfold Asked.notices
    rw [hhandle]
    exact notices_perform_bind rfl _ _
  · rw [after_eq, hhandle, Prog.run_bind]
    rfl

lemma handled_cancel {a : Asked} {workspace : String} {payload : CloseTaskPayload}
    (hrequest : a.request = .cancelTask workspace payload) (hreg : workspace ≠ "")
    (d : HandlerCtx) :
    a.Handled u d (d.taskStore.cancel (a.env u) payload.id payload.reason workspace
      payload.expectedVersion) := by
  let c : Cmd := .cancelTask payload.id payload.reason workspace payload.expectedVersion
  let k : Except TaskStoreError Task → Handler := fun answer =>
    Prog.attempt (answer.mapError (TaskStoreError.message u)) (afterUpdate u workspace)
  have hhandle : handle u a.request = (perform c >>= k : Handler) := by
    rw [hrequest]
    simp only [handle, handleCancelTask, requireRegistered, if_neg hreg, Prog.attempt]
    rfl
  refine ⟨workspace, k, (Sim.exec u c ⟨d, a.tape⟩).2, followsUp_cancellation workspace, rfl,
    fun creator => ?_, ?_⟩
  · unfold Asked.notices
    rw [hhandle]
    exact notices_perform_bind rfl _ _
  · rw [after_eq, hhandle, Prog.run_bind]
    rfl

lemma unregistered {a : Asked} (h : (∃ payload, a.request = .updateTask "" payload) ∨
    ∃ payload, a.request = .cancelTask "" payload) (d : HandlerCtx) :
    (∀ creator, a.notices u creator d = 0) ∧ a.after u d = d := by
  rw [after_eq]
  unfold Asked.notices
  rcases h with ⟨payload, hrequest⟩ | ⟨payload, hrequest⟩
  · rw [hrequest]
    exact ⟨fun _ => rfl, rfl⟩
  · rw [hrequest]
    exact ⟨fun _ => rfl, rfl⟩

variable {a : Asked} {d : HandlerCtx} {task : Task}

lemma Handled.refused {e : TaskStoreError} (h : a.Handled u d (.error e, d.taskStore)) :
    (∀ creator, a.notices u creator d = 0) ∧ (a.after u d).taskStore = d.taskStore := by
  obtain ⟨workspace, k, s, hk, hstore, hnotices, hafter⟩ := h.rest
  refine ⟨fun creator => ?_, ?_⟩
  · rw [hnotices]
    exact notices_of_uses (hk.silent e creator) s
  · rw [hafter, taskStore_of_uses (hk.keeps _)]
    exact hstore

variable (hget : d.taskStore.inner.get task.id = some task) (hcloses : a.request.Closes task.id)
include hget hcloses

lemma refused (hnone : a.request.accepted task = none) :
    (∀ creator, a.notices u creator d = 0) ∧ (a.after u d).taskStore = d.taskStore := by
  cases hrequest : a.request with
  | updateTask workspace payload =>
    rw [hrequest] at hcloses hnone
    obtain rfl | hreg := eq_or_ne workspace ""
    · have hidle := unregistered (u := u) (.inl ⟨payload, hrequest⟩) d
      exact ⟨hidle.1, congrArg HandlerCtx.taskStore hidle.2⟩
    · have hhandled := handled_update (u := u) hrequest hreg d
      have hid : payload.id = task.id := hcloses
      cases hvalid : validateTaskUpdate task (updateArgs workspace payload) with
      | ok => simp [Request.accepted, hreg, hvalid] at hnone
      | error e =>
        have hresult : d.taskStore.updateWithConfirm (a.env u) payload.id
            (updateArgs workspace payload) = (.error e, d.taskStore) := by
          simp only [updateWithConfirm, hid, hget, hvalid]
        rw [hresult] at hhandled
        exact hhandled.refused
  | cancelTask workspace payload =>
    rw [hrequest] at hcloses hnone
    obtain rfl | hreg := eq_or_ne workspace ""
    · have hidle := unregistered (u := u) (.inr ⟨payload, hrequest⟩) d
      exact ⟨hidle.1, congrArg HandlerCtx.taskStore hidle.2⟩
    · have hhandled := handled_cancel (u := u) hrequest hreg d
      have hid : payload.id = task.id := hcloses
      cases hvalid : validateTaskControl task workspace payload.expectedVersion true with
      | error e =>
        have hresult : d.taskStore.cancel (a.env u) payload.id payload.reason workspace
            payload.expectedVersion = (.error e, d.taskStore) := by
          simp only [TaskStore.cancel, hid, hget, hvalid]
        rw [hresult] at hhandled
        exact hhandled.refused
      | ok =>
        have hterminal : isTerminalStatus task.status = true := by
          by_contra hopen
          simp [Request.accepted, hreg, hvalid, hopen] at hnone
        have hresult : d.taskStore.cancel (a.env u) payload.id payload.reason workspace
            payload.expectedVersion = (.error (.alreadyTerminal payload.id
              (Text.toAsciiLowercase (statusDebug task.status))), d.taskStore) := by
          simp only [TaskStore.cancel, hid, hget, hvalid, hterminal, if_true]
        rw [hresult] at hhandled
        exact hhandled.refused
  | _ =>
    rw [hrequest] at hcloses
    exact hcloses.elim

lemma handled_of_accepted {status : TaskStatus} (hsome : a.request.accepted task = some status) :
    ∃ result, a.Handled u d result ∧ Accepts task status (a.Written u task d) result := by
  cases hrequest : a.request with
  | updateTask workspace payload =>
    rw [hrequest] at hcloses hsome
    obtain ⟨⟨hreg, hvalid⟩, heq⟩ := Option.ite_none_right_eq_some.mp hsome
    obtain rfl := Option.some.inj heq
    have hhandled := handled_update (u := u) hrequest hreg d
    have hid : payload.id = task.id := hcloses
    rw [hid] at hhandled
    refine ⟨_, hhandled, ?_⟩
    have haccepts := accepts_update (a.env u) hget hvalid
    unfold Written
    rw [hrequest]
    exact haccepts
  | cancelTask workspace payload =>
    rw [hrequest] at hcloses hsome
    obtain ⟨⟨hreg, hvalid, hopen⟩, heq⟩ := Option.ite_none_right_eq_some.mp hsome
    have hhandled := handled_cancel (u := u) hrequest hreg d
    have hid : payload.id = task.id := hcloses
    rw [hid] at hhandled
    obtain rfl := Option.some.inj heq
    refine ⟨_, hhandled, ?_⟩
    have haccepts := accepts_cancel (a.env u) payload.reason hget hvalid hopen
    unfold Written
    rw [hrequest]
    simpa [Request.changes] using haccepts
  | _ =>
    rw [hrequest] at hcloses
    exact hcloses.elim

lemma stored_after :
    ∃ task', (a.after u d).taskStore.inner.get task.id = some task' ∧
      task'.assignee = task.assignee ∧ task'.createdBy = task.createdBy ∧
      task'.status = (a.request.accepted task).getD task.status := by
  cases haccepted : a.request.accepted task with
  | none =>
    rw [(refused (u := u) hget hcloses haccepted).2]
    exact ⟨task, hget, rfl, rfl, rfl⟩
  | some status =>
    obtain ⟨result, hhandled, haccepts⟩ := handled_of_accepted (u := u) hget hcloses haccepted
    obtain ⟨workspace, k, s, hk, hstore, _, hafter⟩ := hhandled.rest
    obtain ⟨task', hstored, hassignee, hcreator, hstatus, _⟩ := haccepts.stored
    refine ⟨task', ?_, hassignee, hcreator, hstatus⟩
    rw [hafter, taskStore_of_uses (hk.keeps _), hstore]
    exact hstored

end Asked

def HandlerCtx.statusOf (d : HandlerCtx) (id : String) : Option TaskStatus :=
  (d.taskStore.inner.get id).map Task.status

namespace Asked

variable {a : Asked} {d : HandlerCtx} {task : Task}

/-- The creator is told: the request is accepted and written, and leaves an outcome. -/
def Reports (u : Unicode) (a : Asked) (task : Task) (d : HandlerCtx) : Prop :=
  Addressed task.createdBy ∧
    ∃ status ∈ a.request.accepted task, isOutcome status = true ∧ a.Written u task d

lemma notices_cases (hget : d.taskStore.inner.get task.id = some task)
    (hcloses : a.request.Closes task.id) (hother : task.createdBy ≠ task.assignee) :
    (a.Reports u task d ∧ a.notices u task.createdBy d = 1) ∨
      (¬a.Reports u task d ∧ a.notices u task.createdBy d = 0) := by
  cases haccepted : a.request.accepted task with
  | none =>
    refine .inr ⟨?_, (refused hget hcloses haccepted).1 _⟩
    rintro ⟨-, status, hstatus, -⟩
    rw [haccepted] at hstatus
    cases hstatus
  | some status =>
    obtain ⟨result, hhandled, haccepts⟩ := handled_of_accepted (u := u) hget hcloses haccepted
    obtain ⟨workspace, k, s, hk, _, hnotices, _⟩ := hhandled.rest
    obtain ⟨task', _, hassignee, hby, hstatus, hok⟩ := haccepts.stored
    have hreports : a.Reports u task d ↔
        Addressed task.createdBy ∧ isOutcome status = true ∧ a.Written u task d := by
      simp [Reports, haccepted]
    rw [hreports, hnotices]
    by_cases hwritten : a.Written u task d
    · have hcount := notices_afterUpdate (u := u) (by rwa [hby, hassignee]) workspace s
      rw [hby, hstatus] at hcount
      rw [hok hwritten, hk.ok, hcount]
      by_cases haddressed : Addressed task.createdBy <;> cases isOutcome status <;>
        simp [hwritten, haddressed]
    · obtain ⟨e, herror⟩ := haccepts.failed hwritten
      rw [herror, notices_of_uses (hk.silent e _)]
      exact .inr ⟨fun h => hwritten h.2.2, rfl⟩

/-! ## Changes into an outcome -/

def Enters (u : Unicode) (a : Asked) (id : String) (d : HandlerCtx) : Prop :=
  (a.after u d).statusOf id ≠ d.statusOf id ∧ ((a.after u d).statusOf id).any isOutcome = true

instance (u : Unicode) (a : Asked) (id : String) (d : HandlerCtx) : Decidable (a.Enters u id d) :=
  inferInstanceAs (Decidable (_ ∧ _))

/-- The changes of the task into an outcome. -/
def entries (u : Unicode) (a : Asked) (id : String) (d : HandlerCtx) : Nat :=
  if a.Enters u id d then 1 else 0

def Repeats (u : Unicode) (a : Asked) (id : String) (d : HandlerCtx) : Prop :=
  ∃ task, d.taskStore.inner.get id = some task ∧ isOutcome task.status = true ∧
    a.request.accepted task = some task.status ∧ a.Written u task d

def Unwritten (u : Unicode) (a : Asked) (id : String) (d : HandlerCtx) : Prop :=
  ∃ task status, d.taskStore.inner.get id = some task ∧ isOutcome status = true ∧
    a.request.accepted task = some status ∧ status ≠ task.status ∧ ¬a.Written u task d

lemma enters_iff (hget : d.taskStore.inner.get task.id = some task)
    (hcloses : a.request.Closes task.id) :
    a.Enters u task.id d ↔
      ∃ status ∈ a.request.accepted task, isOutcome status = true ∧ status ≠ task.status := by
  obtain ⟨task', hstored, _, _, hstatus⟩ := stored_after (u := u) hget hcloses
  have hafter : (a.after u d).statusOf task.id = some task'.status := by
    rw [HandlerCtx.statusOf, hstored]
    rfl
  have hbefore : d.statusOf task.id = some task.status := by
    rw [HandlerCtx.statusOf, hget]
    rfl
  unfold Enters
  rw [hafter, hbefore, hstatus]
  cases a.request.accepted task with
  | none => simp
  | some status => simp [and_comm]

/-- When a request tells the creator as often as it moves the task into an outcome. -/
def Matched (u : Unicode) (creator id : String) (d : HandlerCtx) (a : Asked) : Prop :=
  if Addressed creator then ¬a.Repeats u id d ∧ ¬a.Unwritten u id d else ¬a.Enters u id d

lemma notices_eq_entries_iff (hget : d.taskStore.inner.get task.id = some task)
    (hcloses : a.request.Closes task.id) (hother : task.createdBy ≠ task.assignee) :
    a.notices u task.createdBy d = a.entries u task.id d ↔
      a.Matched u task.createdBy task.id d := by
  have hrepeats : a.Repeats u task.id d ↔ isOutcome task.status = true ∧
      a.request.accepted task = some task.status ∧ a.Written u task d := by
    simp [Repeats, hget]
  have hunwritten : a.Unwritten u task.id d ↔ ∃ status, isOutcome status = true ∧
      a.request.accepted task = some status ∧ status ≠ task.status ∧ ¬a.Written u task d := by
    simp [Unwritten, hget]
  have hcount : a.notices u task.createdBy d = a.entries u task.id d ↔
      (a.Reports u task d ↔ a.Enters u task.id d) := by
    unfold entries
    rcases notices_cases (u := u) hget hcloses hother with ⟨hreports, hone⟩ | ⟨hsilent, hzero⟩
    · rw [hone]
      by_cases henters : a.Enters u task.id d <;> simp [hreports, henters]
    · rw [hzero]
      by_cases henters : a.Enters u task.id d <;> simp [hsilent, henters]
  rw [hcount, Matched]
  split
  case isFalse hlost => simp [Reports, hlost]
  rename_i haddressed
  rw [hrepeats, hunwritten, enters_iff hget hcloses, Reports, and_iff_right haddressed]
  cases a.request.accepted task with
  | none => simp
  | some status =>
    by_cases hsame : status = task.status
    · subst hsame
      simp
    · simp [hsame]

end Asked

/-! ## Sequences of requests -/

/-- A condition on every request of a sequence, in the state that it finds. -/
def Along (u : Unicode) (P : HandlerCtx → Asked → Prop) : HandlerCtx → List Asked → Prop
  | _, [] => True
  | d, a :: rest => P d a ∧ Along u P (a.after u d) rest

/-- A number summed up over the requests of a sequence. -/
def total (u : Unicode) (f : HandlerCtx → Asked → Nat) : HandlerCtx → List Asked → Nat
  | _, [] => 0
  | d, a :: rest => f d a + total u f (a.after u d) rest

instance (u : Unicode) (P : HandlerCtx → Asked → Prop) [∀ d a, Decidable (P d a)] :
    (d : HandlerCtx) → (requests : List Asked) → Decidable (Along u P d requests)
  | _, [] => inferInstanceAs (Decidable True)
  | d, a :: rest =>
    have : Decidable (Along u P (a.after u d) rest) := instDecidableAlong u P (a.after u d) rest
    inferInstanceAs (Decidable (_ ∧ _))

lemma total_congr {f g : HandlerCtx → Asked → Nat} {d : HandlerCtx} {requests : List Asked}
    (h : Along u (fun d a => f d a = g d a) d requests) :
    total u f d requests = total u g d requests := by
  induction requests generalizing d with
  | nil => rfl
  | cons a rest ih => exact congrArg₂ (· + ·) h.1 (ih h.2)

/-- One notification per outcome.  In every sequence of `update_task` and `cancel_task`
requests on a task of another workspace, each request enqueues a notice exactly if it moves
the task into completed, failed, cancelled or blocked, if and only if

- no accepted request leaves the task in such a status as it was, and
- no accepted change into such a status fails to be written,

or, for a creator with white space around the name or without one, none of these statuses is
reached.
The notices of the sequence are then as many as its changes into these statuses. -/
theorem notices_match_iff {task : Task} {d : HandlerCtx}
    (hget : d.taskStore.inner.get task.id = some task)
    (hother : task.createdBy ≠ task.assignee) {requests : List Asked}
    (hcloses : ∀ a ∈ requests, a.request.Closes task.id) :
    (Along u (fun d a => a.notices u task.createdBy d = a.entries u task.id d) d requests ↔
      Along u (Asked.Matched u task.createdBy task.id) d requests) ∧
    (Along u (Asked.Matched u task.createdBy task.id) d requests →
      total u (fun d a => a.notices u task.createdBy d) d requests =
        total u (fun d a => a.entries u task.id d) d requests) := by
  have hiff : Along u (fun d a => a.notices u task.createdBy d = a.entries u task.id d) d requests ↔
      Along u (Asked.Matched u task.createdBy task.id) d requests := by
    -- The record keeps its id and its parties, so the induction is over all later records.
    induction requests generalizing task d with
    | nil => exact Iff.rfl
    | cons a rest ih =>
      have ha := hcloses a List.mem_cons_self
      obtain ⟨task', hget', hassignee, hby, _⟩ := Asked.stored_after (u := u) hget ha
      have hid : task'.id = task.id := KeyedMap.key_of_get hget'
      have hrest := ih (hid ▸ hget') (by rwa [hby, hassignee]) fun b hb => by
        rw [hid]
        exact hcloses b (List.mem_cons_of_mem a hb)
      rw [hid, hby] at hrest
      exact and_congr (Asked.notices_eq_entries_iff hget ha hother) hrest
  exact ⟨hiff, fun h => total_congr (hiff.mpr h)⟩

/-! ## Two sequences -/

/-- A task of `ann` that `bob` works on. -/
def annsTask : Task :=
  { newTask 0 "t" (plainInput "bob" "ann" "") with status := .inProgress }

def annsCtx : HandlerCtx :=
  { newCtx with taskStore := ⟨none, KeyedMap.empty.put annsTask, .absent⟩ }

def updateBy (workspace : String) (status : Option TaskStatus) (log : Option String) : Asked where
  request := .updateTask workspace ⟨"t", status, none, log, none⟩
  tape _ := calmReading

/-- `bob` is blocked, goes on and fails. -/
def blockedAndFailed : List Asked :=
  [updateBy "bob" (some .blocked) none, updateBy "bob" (some .inProgress) none,
    updateBy "bob" (some .failed) (some "gave up")]

/-- `ann` is told twice, once for each outcome. -/
theorem blockedAndFailed_noticed :
    total .ascii (fun d a => a.notices .ascii "ann" d) annsCtx blockedAndFailed =
      total .ascii (fun d a => a.entries .ascii "t" d) annsCtx blockedAndFailed := by
  have hcloses : ∀ a ∈ blockedAndFailed, a.request.Closes "t" := by
    simp [blockedAndFailed, updateBy, Request.Closes]
  have hget : annsCtx.taskStore.inner.get annsTask.id = some annsTask := by decide
  have hmatch := notices_match_iff (u := .ascii) hget (by decide) hcloses
  exact hmatch.2 (hmatch.1.mp (by decide +kernel))

/-- `bob` fails, and `ann` adds a line to the log. -/
def failedAndLogged : List Asked :=
  [updateBy "bob" (some .failed) none, updateBy "ann" none (some "noted")]

/-- `ann` is told a second time that the task has failed, because of their own line. -/
theorem failedAndLogged_noticed_twice :
    total .ascii (fun d a => a.notices .ascii "ann" d) annsCtx failedAndLogged = 2 ∧
      total .ascii (fun d a => a.entries .ascii "t" d) annsCtx failedAndLogged = 1 := by
  decide +kernel

end Ax.Daemon
