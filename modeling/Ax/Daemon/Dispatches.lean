import Ax.Foundation.Contracts
import Ax.Daemon.TaskStore.Lifecycle
import Ax.Daemon.Notices
import Ax.Daemon.TaskMessages
import Ax.Daemon.UnreadMail

/-!
# Dispatches and reminders

The daemon asks the assignee of a task to work on it in six situations: the task is started,
created by the operator, retried, woken, delivered again to an empty inbox, or silent.  Each
site has a test of its own.  What the tests have in common is said here once, as the contract
of every job in isolation: a dispatch or a reminder is enqueued only for an open task, to its
assignee, while no message of the task waits there; and a refused completion is reported only
for an open task.

Main results:

- Theorems `honest_*`: the contract of each site.
- Theorem `honest_job`: the contract of every job.
-/

namespace Ax.Daemon

open TaskStore

/-! ## Messages that ask for work -/

def isDispatch (msg : Message) : Bool :=
  decide (msg.taskId ≠ "") && "Task ID: ".toList.isPrefixOf msg.content.toList

def isRefusal (msg : Message) : Bool :=
  decide (msg.taskId ≠ "") && "[task-completion-rejected] ".toList.isPrefixOf msg.content.toList

def Headed (content : String) : Prop :=
  "Task ID: ".toList <+: content.toList

lemma headed_reminder (task : Task) (note : String) :
    Headed (buildTaskReminderMessage task note) := by
  unfold Headed buildTaskReminderMessage
  dsimp only
  split
  all_goals split
  all_goals
    simp only [toString, String.toList_append, List.append_assoc]
    exact List.prefix_append _ _

variable {task retried : Task} {P : Sim → Prop} {c : Cmd}
  {id workspace w content : String} {s : Sim} {d : HandlerCtx} {input : CreateTaskInput}
  {a : UpdateArgs}

lemma headed_dispatch (h : Composed task) (hbody : Text.trim task.dispatchMessage ≠ "") :
    Headed task.dispatchMessage := by
  rcases h with hnone | ⟨body, hsome⟩
  · rw [hnone] at hbody
    exact absurd rfl hbody
  · rw [hsome]
    unfold Headed formatTaskDispatchMessage
    simp only [toString, String.toList_append, List.append_assoc]
    exact List.prefix_append _ _

structure AsksFor (u : Unicode) (task : Task) (content : String) : Prop where
  headed : Headed content
  link : extractTaskId u content = task.id

variable {u : Unicode}

lemma asksFor_reminder (h : Linkable task) (note : String) :
    AsksFor u task (buildTaskReminderMessage task note) :=
  ⟨headed_reminder task note, extractTaskId_reminder h.uuid note⟩

lemma asksFor_dispatch (h : Linkable task) (hbody : Text.trim task.dispatchMessage ≠ "") :
    AsksFor u task task.dispatchMessage := by
  refine ⟨headed_dispatch h.composed hbody, ?_⟩
  exact (DaemonText.dispatch (S := storedTasks) (u := u) h hbody).link.2

lemma asksFor_taskDispatchContent (h : Linkable task) (note : String) :
    AsksFor u task (taskDispatchContent task note) := by
  unfold taskDispatchContent
  split
  · rename_i hbody
    exact asksFor_dispatch h hbody.2
  · exact asksFor_reminder h note

lemma plain_of_untagged {msg : Message} (h : msg.taskId = "") :
    isDispatch msg = false ∧ isRefusal msg = false := by
  simp [isDispatch, isRefusal, h]

lemma not_isPrefixOf {head other : String} {content : List Char}
    (h : head.toList <+: content) (hlength : other.toList.length ≤ head.toList.length)
    (hother : ¬other.toList <+: head.toList) : other.toList.isPrefixOf content = false := by
  refine Bool.eq_false_iff.mpr fun hprefix => hother ?_
  exact List.prefix_of_prefix_length_le (List.isPrefixOf_iff_prefix.mp hprefix) h hlength

lemma noticeHead_terminalNotice (task : Task) :
    (noticeHead task.status).toList <+: (terminalNotice task).toList := by
  obtain ⟨rest, hrest⟩ := terminalNotice_eq task
  rw [hrest, String.toList_append]
  exact List.prefix_append _ _

lemma plain_terminalNotice (stamp : Timestamp) (sender recipient : String) (task : Task) :
    isDispatch (taskAwareMessage u stamp sender recipient (terminalNotice task)) = false ∧
      isRefusal (taskAwareMessage u stamp sender recipient (terminalNotice task)) = false := by
  have hhead := noticeHead_terminalNotice task
  have hdispatch : "Task ID: ".toList.isPrefixOf (terminalNotice task).toList = false := by
    refine not_isPrefixOf hhead ?_ ?_
    · cases task.status <;> decide
    · cases task.status <;> decide
  have hrefusal : "[task-completion-rejected] ".toList.isPrefixOf (terminalNotice task).toList =
      false := by
    refine Bool.eq_false_iff.mpr fun hprefix => ?_
    have hstart : (noticeHead task.status).toList <+: "[task-completion-rejected] ".toList := by
      refine List.prefix_of_prefix_length_le hhead (List.isPrefixOf_iff_prefix.mp hprefix) ?_
      cases task.status <;> decide
    revert hstart
    cases task.status <;> decide
  exact ⟨Bool.and_eq_false_iff.mpr (.inr hdispatch), Bool.and_eq_false_iff.mpr (.inr hrefusal)⟩

lemma isDispatch_refusal (stamp : Timestamp) (sender recipient id : String) (e : TaskStoreError) :
    isDispatch (taskAwareMessage u stamp sender recipient (completionRefusalNotice u id e)) =
      false := by
  have hdispatch : "Task ID: ".toList.isPrefixOf (completionRefusalNotice u id e).toList =
      false :=
    not_isPrefixOf (refusal_head id e) (by decide) (by decide)
  exact Bool.and_eq_false_iff.mpr (.inr hdispatch)

lemma isRefusal_of_headed {msg : Message} (h : Headed msg.content) : isRefusal msg = false := by
  have hrefusal : "[task-completion-rejected] ".toList.isPrefixOf msg.content.toList = false := by
    refine Bool.eq_false_iff.mpr fun hprefix => ?_
    have hstart : "Task ID: ".toList <+: "[task-completion-rejected] ".toList :=
      List.prefix_of_prefix_length_le h (List.isPrefixOf_iff_prefix.mp hprefix) (by decide)
    revert hstart
    decide
  rw [isRefusal, hrefusal, Bool.and_false]

/-! ## What a command may enqueue -/

structure OpenTask (task : Task) : Prop where
  live : task.removedAt = none
  status : isOpenStatus task.status = true

namespace HandlerCtx

/-- The task `id` is stored and open, with the given assignee. -/
def HasOpen (d : HandlerCtx) (id assignee : String) : Prop :=
  ∃ task, d.taskStore.inner.get id = some task ∧ task.assignee = assignee ∧ OpenTask task

def Clear (d : HandlerCtx) (id w : String) : Prop :=
  ∀ msg ∈ d.queue.inbox w, isDispatch msg = true → msg.taskId ≠ id

structure Sound (d : HandlerCtx) : Prop where
  linked : AllRecords Linkable d.taskStore.inner
  known : ∀ w, ∀ msg ∈ d.queue.inbox w, isDispatch msg = true →
    ∃ task, d.taskStore.inner.get msg.taskId = some task

end HandlerCtx

namespace Cmd

def Sanctioned (s : Sim) : Cmd → Prop
  | .enqueue msg =>
    (isDispatch msg = true →
      s.ctx.HasOpen msg.taskId msg.recipient ∧ s.ctx.Clear msg.taskId msg.recipient) ∧
    (isRefusal msg = true → s.ctx.HasOpen msg.taskId msg.recipient)
  | _ => True

def Named (u : Unicode) (s : Sim) (c : Cmd) : Prop :=
  c.FreshUuid u (s.tape 0) s.ctx

structure Relies (u : Unicode) (s : Sim) (c : Cmd) : Prop where
  sound : s.ctx.Sound
  named : c.Named u s

def Plain : Cmd → Prop
  | .enqueue msg => isDispatch msg = false ∧ isRefusal msg = false
  | _ => True

def mayEnd : Cmd → Bool
  | .updateTask .. | .cancelTask .. | .removeTask .. => true
  | _ => false

def offers : Cmd → Bool
  | .createTask _ | .taskForIntervention .. | .runnableByAssignee _
  | .listSilentInProgress .. => true
  | _ => false

end Cmd

variable {α β : Type} {p : Program α}

/-- The program keeps to what is sanctioned, from every state with `P`. -/
abbrev Honest (u : Unicode) (P : Sim → Prop) (p : Program α) (Q : α → Sim → Prop) : Prop :=
  p.Contract (Sim.exec u) (Cmd.Relies u) Cmd.Sanctioned P Q

lemma honest_of_plain (h : p.Uses Cmd.Plain) : Honest u P p fun _ _ => True := by
  refine .of_uses h fun s c hc _ => ?_
  cases c with
  | enqueue msg =>
    refine ⟨fun hdispatch => ?_, fun hrefusal => ?_⟩
    · rw [hc.1] at hdispatch
      cases hdispatch
    · rw [hc.2] at hrefusal
      cases hrefusal
  | _ => trivial

/-! ## Open tasks -/

lemma openTask_callRelation {call : StoreCall}
    (hupdate : ∀ id a, call.op ≠ .updateWithConfirm id a)
    (hcancel : ∀ id reason workspace expected, call.op ≠ .cancel id reason workspace expected)
    (hremove : ∀ id reason workspace expected, call.op ≠ .remove id reason workspace expected) :
    CallRelation call fun t t' => OpenTask t → OpenTask t' where
  refl _ := id
  trans _ _ _ h₁ h₂ := h₂ ∘ h₁
  touch h hopen := by
    cases h with
    | updated hop => exact absurd hop (hupdate _ _)
    | cancelled hop => exact absurd hop (hcancel _ _ _ _)
    | removed hop => exact absurd hop (hremove _ _ _ _)
    | retried =>
      refine ⟨?_, by rw [retryRecord_status]; rfl⟩
      unfold retryRecord clearTaskRetryState
      dsimp only
      split
      · exact hopen.live
      · exact hopen.live
    | recovered =>
      refine ⟨?_, by rw [recoverRecord_status]; rfl⟩
      unfold recoverRecord clearTaskRetryState
      dsimp only
      split
      · exact hopen.live
      · exact hopen.live
    | dispatched => exact ⟨hopen.live, hopen.status⟩
    | active => exact ⟨hopen.live, hopen.status⟩
  refresh all parent now _ hopen := by
    rw [refreshRollup_frame]
    exact ⟨hopen.live, hopen.status⟩
  adopt now parent childId _ hopen := by
    unfold adoptChild
    split
    · exact hopen
    · exact ⟨hopen.live, hopen.status⟩

lemma hasOpen_exec (hc : c.mayEnd = false) (hnamed : c.Named u s) {assignee : String}
    (h : s.ctx.HasOpen id assignee) : (Sim.exec u c s).2.ctx.HasOpen id assignee := by
  obtain ⟨task, hget, hassignee, hopen⟩ := h
  rcases storeStep_exec hnamed.fresh with hsame | ⟨call, hcall, hstep⟩
  · refine ⟨task, ?_, hassignee, hopen⟩
    show (c.exec u (s.tape 0) s.ctx).2.taskStore.inner.get id = some task
    rw [hsame]
    exact hget
  · have hrelation : CallRelation call fun t t' => OpenTask t → OpenTask t' := by
      cases c with
      | updateTask | cancelTask | removeTask => cases hc
      | createTask | retryTask | recordDispatch | markToolActivity | recoverStaleInProgress =>
        obtain rfl := Option.some.inj hcall
        refine openTask_callRelation ?_ ?_ ?_
        all_goals
          intros
          exact fun hop => by cases hop
      | _ => cases hcall
    obtain ⟨task', hget', hkept⟩ := hrelation.storeStep hstep id task hget
    obtain ⟨task₂, hget₂, hsame⟩ := assignee_recordRelation.storeStep hstep id task hget
    obtain rfl := Option.some.inj (hget'.symm.trans hget₂)
    exact ⟨task', hget', hsame.trans hassignee, hkept hopen⟩

lemma openTask_of_create {r : Reading}
    (hfresh : StoreCall.Fresh ⟨r.storeEnv u, .create r.uuid input⟩ d.taskStore)
    (h : (d.taskStore.create (r.storeEnv u) r.uuid input).1 = .ok task) : OpenTask task := by
  have hinvariant : RecordInvariant fun t => t.id = r.uuid → OpenTask t := by
    refine ⟨fun _ _ _ _ => ⟨rfl, rfl⟩, fun all parent now hparent hid => ?_,
      fun now parent childId hparent hid => ?_⟩
    · have hopen := hparent ((refreshRollup_id all parent now).symm.trans hid)
      rw [refreshRollup_frame]
      exact ⟨hopen.live, hopen.status⟩
    · have hopen := hparent ((adoptChild_id now parent childId).symm.trans hid)
      unfold adoptChild
      split
      · exact hopen
      · exact ⟨hopen.live, hopen.status⟩
  have hstep : StoreStep d.taskStore ⟨r.storeEnv u, .create r.uuid input⟩
      (d.taskStore.create (r.storeEnv u) r.uuid input).2 := ⟨hfresh, rfl⟩
  have hstored := get_of_create h
  refine hinvariant.storeStep hstep ?_ ?_ _ _ hstored (KeyedMap.key_of_get hstored)
  · intro t t' _ htouch
    cases htouch with
    | updated hop | cancelled hop | removed hop | retried hop | recovered hop | dispatched hop
    | active hop => cases hop
  · intro id t hget hid
    rw [← KeyedMap.key_of_get hget, hid, hfresh.1] at hget
    cases hget

lemma openTask_of_intervention {s : TaskStore} {expected : Option Int}
    (h : s.getForIntervention id workspace expected = .ok task) : OpenTask task := by
  obtain ⟨_, hvalid, hopen⟩ := getForIntervention_eq_ok_iff.mp h
  exact ⟨not_removed_of_validateTaskControl hvalid, hopen⟩

lemma openTask_of_offered {r : Reading} (hfresh : c.Fresh u r d) (hc : c.offers = true)
    (h : task ∈ c.tasks (c.exec u r d).1) : OpenTask task := by
  cases c with
  | createTask input =>
    simp only [Cmd.tasks, Cmd.exec] at h
    exact openTask_of_create (hfresh _ rfl) (Result.mem_toOption.mp h)
  | taskForIntervention id workspace expected =>
    exact openTask_of_intervention (Result.mem_toOption.mp h)
  | runnableByAssignee assignee =>
    refine ⟨(not_removed_of_mem_runnable h).2, ?_⟩
    have hfilter := (List.mem_filter.mp h).2
    split at hfilter
    · cases hfilter
    · split at hfilter
      · cases hfilter
      · rename_i hpending
        push Not at hpending
        rw [hpending.1]
        rfl
  | listSilentInProgress stamp threshold =>
    refine ⟨(not_removed_of_mem_silent h).2, ?_⟩
    have hfilter := (List.mem_filter.mp h).2
    split at hfilter
    · cases hfilter
    · rename_i hsilent
      push Not at hsilent
      rw [hsilent.2.1]
      rfl
  | _ => cases hc

structure Offered (s : Sim) (task : Task) : Prop where
  linkable : Linkable task
  isOpen : s.ctx.HasOpen task.id task.assignee

lemma offered_of_mem_tasks (h : c.Relies u s) (hc : c.offers = true)
    (hmem : task ∈ c.tasks (Sim.exec u c s).1) : Offered (Sim.exec u c s).2 task where
  linkable := (linkedAnswer_exec h.named h.sound.linked).tasks task hmem
  isOpen := ⟨task, get_of_mem_tasks hmem, rfl, openTask_of_offered h.named.fresh hc hmem⟩

/-! ## Clear inboxes -/

lemma clear_of_forall (hid : IsUuid id) (h : ∀ msg ∈ d.queue.inbox w, messageTaskId u msg ≠ id) :
    d.Clear id w := by
  rintro msg hmem - rfl
  exact h msg hmem (messageTaskId_of_tag hid)

lemma clear_of_not_hasTaskMessage (hid : IsUuid id) (h : d.queue.hasTaskMessage u w id = false) :
    d.Clear id w := by
  refine clear_of_forall (u := u) hid fun msg hmem hmsg => ?_
  unfold MessageQueue.hasTaskMessage at h
  simp only [hid.trim_eq, if_neg hid.ne_empty, List.any_eq_false, decide_eq_true_eq] at h
  exact h msg hmem hmsg

lemma clear_of_purge (hid : IsUuid id) :
    (Sim.exec u (.removeTaskMessages w id) s).2.ctx.Clear id w := by
  refine clear_of_forall (u := u) hid fun msg hmem => ?_
  simp only [Sim.exec, Cmd.exec] at hmem
  rw [MessageQueue.inbox_removeTaskMessages, hid.trim_eq, if_pos ⟨rfl, hid.ne_empty⟩] at hmem
  simpa using (List.mem_filter.mp hmem).2

lemma clear_of_pendingCount (id : String) (h : d.queue.pendingCount w = 0) : d.Clear id w := by
  intro msg hmem
  rw [MessageQueue.pendingCount_eq_zero_iff.mp h] at hmem
  cases hmem

lemma HandlerCtx.Sound.clear (h : d.Sound) (hid : d.taskStore.inner.get id = none) (w : String) :
    d.Clear id w := by
  rintro msg hmem hdispatch rfl
  obtain ⟨task, hget⟩ := h.known w msg hmem hdispatch
  rw [hid] at hget
  cases hget

/-! ## The sites -/

def Sim.StillOpen (task : Task) (s : Sim) : Prop :=
  s.ctx.HasOpen task.id task.assignee

/-- The task is still open, and its assignee may be asked for it. -/
def Sim.Askable (task : Task) (s : Sim) : Prop :=
  s.ctx.HasOpen task.id task.assignee ∧ s.ctx.Clear task.id task.assignee

lemma honest_seq {f : α → Program β} (hp : Honest u P p fun _ _ => True)
    (hf : ∀ a, Honest u (fun _ => True) (f a) fun _ _ => True) :
    Honest u P (p >>= f) fun _ _ => True :=
  hp.bind hf

lemma honest_act {f : c.Result → Program β} (hc : c.Plain)
    (hf : ∀ answer, Honest u (fun _ => True) (f answer) fun _ _ => True) :
    Honest u P (perform c >>= f) fun _ _ => True :=
  honest_seq (honest_of_plain (.call hc)) hf

lemma AsksFor.sanctioned (h : AsksFor u task content) {stamp : Timestamp} {sender : String}
    (hs : s.Askable task) :
    (Cmd.enqueue (taskAwareMessage u stamp sender task.assignee content)).Sanctioned s := by
  refine ⟨fun _ => ?_, fun hrefusal => ?_⟩
  · simp only [taskAwareMessage, h.link]
    exact hs
  · have hplain : isRefusal (taskAwareMessage u stamp sender task.assignee content) = false :=
      isRefusal_of_headed h.headed
    rw [hplain] at hrefusal
    cases hrefusal

lemma honest_enqueueTaskMessage (h : AsksFor u task content) (sender : String) :
    Honest u (Sim.Askable task) (enqueueTaskMessage u task sender content) fun _ _ => True := by
  refine .act (c := Cmd.now) (M := fun _ => Sim.Askable task)
    (fun _ hs _ => ⟨trivial, hs⟩) fun stamp => ?_
  refine .act (c := Cmd.enqueue _) (M := fun _ _ => True)
    (fun s hs _ => ⟨h.sanctioned hs, trivial⟩) fun msg => ?_
  exact honest_of_plain (.bind (.call trivial) fun _ => .ret _)

lemma clear_of_exec_hasTaskMessage (hid : IsUuid id)
    (h : (Sim.exec u (.hasTaskMessage w id) s).1 = false) : s.ctx.Clear id w := by
  simp only [Sim.exec, Cmd.exec] at h
  exact clear_of_not_hasTaskMessage hid h

lemma honest_unlessUnread (hlink : Linkable task) (h : AsksFor u task content) {sender : String}
    {f : Message → Program α} (hp : p.Uses Cmd.Plain) (hf : ∀ msg, (f msg).Uses Cmd.Plain) :
    Honest u (Sim.StillOpen task) (perform (.hasTaskMessage task.assignee task.id) >>= fun unread =>
        if unread = true then p else enqueueTaskMessage u task sender content >>= f)
      fun _ _ => True := by
  refine .act (c := Cmd.hasTaskMessage task.assignee task.id) (M := fun unread s =>
    s.ctx.HasOpen task.id task.assignee ∧
      (unread = false → s.ctx.Clear task.id task.assignee)) ?_ fun unread => ?_
  · exact fun s hs _ => ⟨trivial, hs, clear_of_exec_hasTaskMessage hlink.uuid⟩
  · cases unread with
    | true => exact honest_of_plain hp
    | false =>
      refine .bind (.imp (honest_enqueueTaskMessage h sender)
        (fun s hs => ⟨hs.1, hs.2 rfl⟩) fun _ _ h => h) fun msg => ?_
      exact honest_of_plain (hf msg)

lemma honest_refillTask (hlink : Linkable task) (hassignee : task.assignee = workspace)
    (sender : String) :
    Honest u (Sim.StillOpen task) (refillTask u workspace sender task) fun _ _ => True := by
  subst hassignee
  exact honest_unlessUnread hlink (asksFor_taskDispatchContent hlink "") (.ret _) fun _ => .ret _

abbrev Cmd.Sparing (c : Cmd) : Prop :=
  c.mayEnd = false

lemma sparing_enqueueTaskMessage (task : Task) (sender content : String) :
    (enqueueTaskMessage u task sender content).Uses Cmd.Sparing :=
  .bind (.call rfl) fun _ => .bind (.call rfl) fun _ => .bind (.call rfl) fun _ => .ret _

lemma honest_forOffered {tasks : List Task} {f : Task → Program β}
    (hsparing : ∀ task ∈ tasks, (f task).Uses Cmd.Sparing) (hbody : ∀ task ∈ tasks, Linkable task →
      Honest u (Sim.StillOpen task) (f task) fun _ _ => True) :
    Honest u (fun s => ∀ task ∈ tasks, Offered s task) (Prog.mapM f tasks) fun _ _ => True := by
  refine .imp (.mapM fun task hmem => ?_) (fun _ h => h) fun _ _ _ => trivial
  have hone : Honest u (fun s => ∀ task ∈ tasks, Offered s task) (f task) fun _ _ => True :=
    .given (fun s hs => (hs task hmem).linkable) fun hlink =>
      (hbody task hmem hlink).imp (fun s hs => (hs task hmem).isOpen) fun _ _ h => h
  refine hone.keeping (hsparing task hmem) fun s c hc hrelies hs other hother => ?_
  exact ⟨(hs other hother).linkable, hasOpen_exec hc hrelies.named (hs other hother).isOpen⟩

lemma assignee_of_mem_runnable {s : TaskStore} {assignee : String} {now : Timestamp}
    (h : task ∈ s.runnableByAssignee assignee now) : task.assignee = assignee := by
  have hfilter := (List.mem_filter.mp h).2
  split at hfilter
  · cases hfilter
  · rename_i hmine
    push Not at hmine
    exact hmine.2

/-- The runnable tasks of a workspace are delivered again. -/
theorem honest_refillRunnableTaskMessages (workspace sender : String) :
    Honest u P (refillRunnableTaskMessages u workspace sender) fun _ _ => True := by
  refine .act (c := Cmd.runnableByAssignee workspace) (M := fun tasks s =>
    (∀ task ∈ tasks, task.assignee = workspace) ∧ ∀ task ∈ tasks, Offered s task) ?_
    fun tasks => ?_
  · exact fun s _ hrelies => ⟨trivial, fun _ hmem => assignee_of_mem_runnable hmem,
      fun _ hmem => offered_of_mem_tasks hrelies rfl hmem⟩
  · refine .given (fun s hs => hs.1) fun hassignee => ?_
    have hloop : Honest u (fun s => ∀ task ∈ tasks, Offered s task)
        (Prog.mapM (refillTask u workspace sender) tasks) fun _ _ => True := by
      refine honest_forOffered (fun task _ => ?_) fun task hmem hlink =>
        honest_refillTask hlink (hassignee task hmem) sender
      refine .bind (.call rfl) fun unread => ?_
      split
      · exact .ret _
      · exact .bind (sparing_enqueueTaskMessage _ _ _) fun _ => .ret _
    refine (hloop.imp (fun s hs => hs.2) fun _ _ h => h).bind fun _ => ?_
    exact .ret fun _ _ => trivial

/-! ## Plain programs -/

lemma plain_of_quiet (h : p.Uses Cmd.Quiet) : p.Uses Cmd.Plain := by
  refine h.mono fun c hc => ?_
  cases c with
  | enqueue msg => cases hc
  | _ => trivial

lemma plain_of_keepsInboxes (h : p.Uses Cmd.KeepsInboxes) : p.Uses Cmd.Plain := by
  refine h.mono fun c hc => ?_
  cases c with
  | enqueue msg => exact hc.elim
  | _ => trivial

def plainMail : MailUse where
  posts msg := isDispatch msg = false ∧ isRefusal msg = false
  reads := False

lemma posts_plainMail (msg : Message) (h : PeerMessage msg) : plainMail.posts msg :=
  plain_of_untagged h

lemma notifies_plainMail : plainMail.Notifies u allTasks :=
  fun task stamp creator _ => plain_terminalNotice stamp task.assignee creator task

lemma plain_of_serves (h : Serves (fun _ _ => True) allTasks plainMail w p) :
    p.Uses Cmd.Plain := by
  refine (h.behaves.uses fun _ _ => trivial).mono fun c hc => ?_
  cases c with
  | enqueue msg => exact hc
  | _ => trivial

lemma honest_of_serves (h : Serves (fun _ _ => True) allTasks plainMail w p) :
    Honest u P p fun _ _ => True :=
  honest_of_plain (plain_of_serves h)

lemma plain_attemptWake (wake : PendingWake) : (attemptWake wake).Uses Cmd.Plain := by
  refine .bind (.call trivial) fun pending => ?_
  split
  · exact .bind (.call trivial) fun _ => .ret _
  · refine .bind (.call trivial) fun live => ?_
    split
    · exact plain_of_keepsInboxes (keepsInboxes_wakeWhenIdle wake)
    · exact plain_of_keepsInboxes (keepsInboxes_ensureBeforeWake wake)

/-! ## Reading and waking -/

lemma honest_handleReadMessages (workspace : String) (payload : ReadMessagesPayload) :
    Honest u P (handleReadMessages u workspace payload) fun _ _ => True := by
  refine .attempt (fun _ _ _ => trivial) fun _ _ => ?_
  refine honest_seq ?_ fun _ => honest_of_plain ?_
  · refine honest_act trivial fun pending => ?_
    split
    · refine honest_act trivial fun wake => ?_
      cases wake with
      | none => exact .ret fun _ _ => trivial
      | some wake =>
        exact (honest_refillRunnableTaskMessages _ _).bind fun _ => .ret fun _ _ => trivial
    · exact .ret fun _ _ => trivial
  · refine .bind (.call trivial) fun _ => ?_
    refine .bind (plain_of_quiet (quiet_touchNow workspace)) fun _ => ?_
    exact .bind (plain_of_serves (w := workspace) (serves_cancelWakeIfDrained workspace))
      fun _ => .ret _

/-- The wake pass. -/
theorem honest_process : Honest u P (process u) fun _ _ => True := by
  refine honest_act trivial fun ready => ?_
  refine .mapM fun wake _ => ?_
  refine honest_seq ?_ fun _ => .ret fun _ _ => trivial
  refine honest_seq ?_ fun _ => honest_of_plain (plain_attemptWake wake)
  refine honest_act trivial fun pending => ?_
  split
  · refine honest_act trivial fun _ => ?_
    refine (honest_refillRunnableTaskMessages _ _).bind fun _ => ?_
    exact honest_of_plain (.call trivial)
  · exact .ret fun _ _ => trivial

/-! ## Starting and creating tasks -/

structure Unannounced (s : Sim) (task : Task) : Prop extends Offered s task where
  clear : s.ctx.Clear task.id task.assignee

lemma unannounced_of_create (h : (Cmd.createTask input).Relies u s)
    (hanswer : (Sim.exec u (.createTask input) s).1 = .ok task) :
    Unannounced (Sim.exec u (.createTask input) s).2 task := by
  have hmem : task ∈ (Cmd.createTask input).tasks (Sim.exec u (.createTask input) s).1 :=
    Result.mem_toOption.mpr hanswer
  refine ⟨offered_of_mem_tasks h rfl hmem, ?_⟩
  have hid : task.id = (s.tape 0).uuid := by
    simp only [Sim.exec, Cmd.exec] at hanswer
    exact KeyedMap.key_of_get (get_of_create hanswer)
  have hfresh : s.ctx.taskStore.inner.get (s.tape 0).uuid = none := (h.named.fresh _ rfl).1
  rw [hid]
  intro msg hmem
  simp only [Sim.exec, Cmd.exec] at hmem
  exact h.sound.clear hfresh task.assignee msg hmem

lemma honest_afterCreation {f : Task → Program (Except String α)} (hf : ∀ task, Linkable task →
      Honest u (Sim.Askable task) (f task) fun _ _ => True) :
    Honest u P
      (perform (.createTask input) >>= fun created =>
        Prog.attempt (created.mapError (TaskStoreError.message u)) f)
      fun _ _ => True := by
  refine .act (c := Cmd.createTask input) (M := fun created s =>
    ∀ task, created = .ok task → Unannounced s task) ?_ fun created => ?_
  · exact fun s _ hrelies => ⟨trivial, fun task => unannounced_of_create hrelies⟩
  · refine .attempt (fun _ _ _ => trivial) fun task hok => ?_
    have hcreated := Result.mapError_eq_ok.mp hok
    refine .given (fun s hs => (hs task hcreated).linkable) fun hlink => ?_
    exact (hf task hlink).imp
      (fun s hs => ⟨(hs task hcreated).isOpen, (hs task hcreated).clear⟩) fun _ _ h => h

lemma honest_deliverTask (h : AsksFor u task content) (sender : String) :
    Honest u (Sim.Askable task) (deliverTask u task sender content) fun _ _ => True := by
  refine (honest_enqueueTaskMessage h sender).bind fun _ => honest_of_plain ?_
  exact .bind (.call trivial) fun _ => .ret _

/-- The dispatch of a started task. -/
theorem honest_dispatchTaskStart (hlink : Linkable task) :
    Honest u (Sim.Askable task) (dispatchTaskStart u task) fun _ _ => True := by
  unfold dispatchTaskStart
  split
  · exact .ret fun _ _ => trivial
  · exact .ret fun _ _ => trivial
  · rename_i assignee configPath hplan
    have hbody : Text.trim task.dispatchMessage ≠ "" := by
      intro hblank
      unfold planTaskStartDispatch at hplan
      cases hstatus : task.status <;> simp [hstatus, hblank] at hplan
    refine (honest_deliverTask (asksFor_dispatch hlink hbody) _).bind fun _ => honest_of_plain ?_
    split
    · exact .ret _
    · exact .bind (.call trivial) fun _ => .attempt fun _ _ => .ret _

lemma honest_handleStartTask (workspace : String) (payload : StartTaskPayload) :
    Honest u P (handleStartTask u workspace payload) fun _ _ => True := by
  refine .attempt (fun _ _ _ => trivial) fun _ _ => ?_
  refine .attempt (fun _ _ _ => trivial) fun _ _ => ?_
  refine .attempt (fun _ _ _ => trivial) fun _ _ => ?_
  refine (honest_of_plain (plain_of_quiet
    (quiet_dispatchConfigPathForWorkspace workspace))).bind fun _ => ?_
  refine honest_afterCreation fun task hlink => ?_
  refine (honest_dispatchTaskStart hlink).bind fun _ => honest_of_plain ?_
  refine .attempt fun _ _ => ?_
  refine .bind (plain_of_quiet (quiet_touchNow workspace)) fun _ => ?_
  exact .bind (plain_of_quiet (quiet_refreshedTask _ _)) fun _ => .ret _

lemma honest_handleCreateTask (workspace : String) (payload : CreateTaskPayload) :
    Honest u P (handleCreateTask u workspace payload) fun _ _ => True := by
  refine .attempt (fun _ _ _ => trivial) fun _ _ => ?_
  refine .attempt (fun _ _ _ => trivial) fun _ _ => ?_
  refine honest_afterCreation fun task hlink => ?_
  refine honest_seq ?_ fun _ => honest_of_plain ?_
  · unfold dispatchCreatedTask
    split
    · refine (honest_deliverTask (asksFor_reminder hlink "") _).bind fun _ => ?_
      exact honest_of_plain (plain_of_quiet (quiet_refreshedTask _ _))
    · exact .ret fun _ _ => trivial
  · exact .bind (plain_of_quiet (quiet_touchNow workspace)) fun _ => .ret _

/-! ## Closing tasks -/

lemma openTask_of_unmet (h : CompletionUnmet task a) : OpenTask task := by
  refine ⟨h.live, ?_⟩
  have hallowed := h.allowed
  have hfresh := h.fresh
  cases hstatus : task.status with
  | pending | inProgress | blocked => rfl
  | completed => exact absurd hstatus hfresh
  | failed | cancelled =>
    rw [hstatus] at hallowed
    cases hallowed

lemma open_of_refusal {env : StoreEnv} {s : TaskStore} {e : TaskStoreError}
    (h : (s.updateWithConfirm env id a).1 = .error e) (he : isCompletionRefusal e = true) :
    (s.updateWithConfirm env id a).2 = s ∧
      ∃ task, s.inner.get id = some task ∧ task.assignee = a.workspace ∧ OpenTask task := by
  obtain ⟨task, hget, hunmet⟩ := (updateWithConfirm_refuses_iff env s id a).mp ⟨e, h, he⟩
  obtain ⟨e', hinvalid, _⟩ := (validateTaskUpdate_refuses_iff task a).mpr hunmet
  refine ⟨?_, task, hget, hunmet.assignee.symm, openTask_of_unmet hunmet⟩
  unfold updateWithConfirm
  rw [hget]
  dsimp only
  rw [hinvalid]

lemma hasOpen_of_refusal {e : TaskStoreError} (h : (Sim.exec u (.updateTask id a) s).1 = .error e)
    (he : isCompletionRefusal e = true) :
    (Sim.exec u (.updateTask id a) s).2.ctx.HasOpen id a.workspace := by
  simp only [Sim.exec, Cmd.exec] at h ⊢
  obtain ⟨hkept, hopen⟩ := open_of_refusal h he
  simp only [hkept]
  exact hopen

/-- Updating a task. -/
theorem honest_handleUpdateTask (workspace : String) (payload : UpdateTaskPayload) :
    Honest u P (handleUpdateTask u workspace payload) fun _ _ => True := by
  refine .attempt (fun _ _ _ => trivial) fun _ _ => ?_
  refine .act (c := Cmd.updateTask payload.id (updateArgs workspace payload))
    (M := fun answer s => ∀ e, answer = .error e → isCompletionRefusal e = true →
      IsUuid payload.id ∧ s.ctx.HasOpen payload.id workspace) ?_ fun answer => ?_
  · intro s _ hrelies
    refine ⟨trivial, fun e hanswer he => ?_⟩
    obtain ⟨task, hget, hopen⟩ := hasOpen_of_refusal hanswer he
    have hlink := linkable_exec hrelies.named hrelies.sound.linked payload.id task hget
    exact ⟨KeyedMap.key_of_get hget ▸ hlink.uuid, task, hget, hopen⟩
  · cases answer with
    | ok task =>
      exact honest_of_serves (w := workspace)
        (serves_afterUpdate workspace notifies_plainMail trivial)
    | error e =>
      rw [settleUpdate, afterRefusal]
      split
      · rename_i hrefusal
        refine honest_seq ?_ fun _ => .ret fun _ _ => trivial
        refine .act (c := Cmd.now) (M := fun _ s =>
          IsUuid payload.id ∧ s.ctx.HasOpen payload.id workspace)
          (fun s hs _ => ⟨trivial, hs e rfl hrefusal⟩) fun stamp => ?_
        refine .call fun s hs _ => ⟨⟨fun hdispatch => ?_, fun _ => ?_⟩, trivial⟩
        · rw [isDispatch_refusal] at hdispatch
          cases hdispatch
        · simp only [taskAwareMessage, extractTaskId_refusal hs.1]
          exact hs.2
      · exact .ret fun _ _ => trivial

/-! ## Interventions -/

lemma honest_dispatchTaskWake (hlink : Linkable task) (sender : String) :
    Honest u (Sim.StillOpen task) (dispatchTaskWake u task sender) fun _ _ => True := by
  refine .act (c := Cmd.sessionExists task.assignee) (M := fun _ => Sim.StillOpen task)
    (fun _ hs _ => ⟨trivial, hs⟩) fun live => ?_
  split
  · split
    · exact honest_of_plain (.bind (.call trivial) fun _ => .ret _)
    · refine honest_seq ?_ fun _ => honest_of_plain (.bind (.call trivial) fun _ => .ret _)
      refine honest_seq ?_ fun _ => honest_of_plain (.bind (.call trivial) fun _ => .ret _)
      exact honest_unlessUnread hlink (asksFor_reminder hlink _) (.ret _) fun _ => .ret _
  · exact honest_of_plain (.bind (.call trivial) fun _ => .ret _)
  · exact .ret fun _ _ => trivial

lemma retried_of_exec {note : String} {expected : Option Int}
    (hrelies : (Cmd.retryTask task.id note workspace expected).Relies u s)
    (hopen : s.ctx.HasOpen task.id task.assignee)
    (hanswer : (Sim.exec u (.retryTask task.id note workspace expected) s).1 = .ok retried) :
    retried.id = task.id ∧ retried.assignee = task.assignee ∧ Linkable retried := by
  have hmem : retried ∈ (Cmd.retryTask task.id note workspace expected).tasks
      (Sim.exec u (.retryTask task.id note workspace expected) s).1 :=
    Result.mem_toOption.mpr hanswer
  have hlink := (linkedAnswer_exec hrelies.named hrelies.sound.linked).tasks retried hmem
  obtain ⟨stored, hget, hassignee, _⟩ := hopen
  simp only [Sim.exec, Cmd.exec] at hanswer
  refine ⟨KeyedMap.key_of_get (accepted_retry hanswer).stored, ?_, hlink⟩
  rw [← hassignee]
  exact assignee_of_retry hget hanswer

lemma honest_redeliverTask (hlink : Linkable retried) (hid : retried.id = task.id)
    (hassignee : retried.assignee = task.assignee) (workspace note : String) :
    Honest u (Sim.StillOpen task)
      (redeliverTask u workspace note task retried) fun _ _ => True := by
  unfold redeliverTask Sim.StillOpen
  rw [← hid, ← hassignee]
  refine .act (c := Cmd.removeTaskMessages retried.assignee retried.id) (M := fun _ s =>
    s.ctx.HasOpen retried.id retried.assignee ∧ s.ctx.Clear retried.id retried.assignee)
    (fun s hs hrelies => ⟨trivial, hasOpen_exec rfl hrelies.named hs, clear_of_purge hlink.uuid⟩)
    fun _ => ?_
  refine (honest_enqueueTaskMessage (asksFor_reminder hlink _) workspace).bind fun _ => ?_
  exact honest_of_plain (.bind (.call trivial) fun _ => .ret _)

lemma honest_afterRetry (hlink : Linkable retried) (hid : retried.id = task.id)
    (hassignee : retried.assignee = task.assignee) (workspace : String)
    (payload : InterveneTaskPayload) :
    Honest u (Sim.StillOpen task)
      (afterRetry u workspace payload task retried) fun _ _ => True := by
  refine (honest_redeliverTask hlink hid hassignee workspace payload.note).bind fun _ =>
    honest_of_plain ?_
  dsimp only
  split
  · exact .bind (plain_of_quiet (quiet_refreshedTask _ _)) fun _ => .ret _
  · refine .bind (.call trivial) fun _ => .attempt fun _ _ => ?_
    exact .bind (plain_of_quiet (quiet_refreshedTask _ _)) fun _ => .ret _

lemma honest_interveneRetry (workspace : String) (payload : InterveneTaskPayload) (task : Task) :
    Honest u (Sim.StillOpen task) (interveneRetry u workspace payload task) fun _ _ => True := by
  refine .act (c := Cmd.retryTask task.id payload.note workspace payload.expectedVersion)
    (M := fun answer s => s.ctx.HasOpen task.id task.assignee ∧ ∀ retried, answer = .ok retried →
      retried.id = task.id ∧ retried.assignee = task.assignee ∧ Linkable retried) ?_
    fun answer => ?_
  · exact fun s hs hrelies => ⟨trivial, hasOpen_exec rfl hrelies.named hs,
      fun retried => retried_of_exec hrelies hs⟩
  · refine .attempt (fun _ _ _ => trivial) fun retried hok => ?_
    refine .given (fun s hs => hs.2 retried (Result.mapError_eq_ok.mp hok)) fun hretried => ?_
    obtain ⟨hid, hassignee, hlink⟩ := hretried
    exact (honest_afterRetry hlink hid hassignee workspace payload).imp
      (fun s hs => hs.1) fun _ _ h => h

/-- An intervention on an open task. -/
theorem honest_interveneOn (hlink : Linkable task) (workspace : String)
    (payload : InterveneTaskPayload) :
    Honest u (Sim.StillOpen task) (interveneOn u workspace payload task) fun _ _ => True := by
  unfold interveneOn
  refine honest_seq ?_ fun _ => honest_of_plain ?_
  · unfold interveneAction
    split
    · refine (honest_dispatchTaskWake hlink workspace).bind fun _ => honest_of_plain ?_
      exact .attempt fun _ _ => .bind (plain_of_quiet (quiet_refreshedTask _ _)) fun _ => .ret _
    · exact honest_of_plain (plain_of_quiet (quiet_interveneInterrupt _ _))
    · exact honest_interveneRetry workspace payload task
    · exact .ret fun _ _ => trivial
  · exact .attempt fun _ _ => .bind (plain_of_quiet (quiet_touchNow workspace)) fun _ => .ret _

lemma honest_handleInterveneTask (workspace : String) (payload : InterveneTaskPayload) :
    Honest u P (handleInterveneTask u workspace payload) fun _ _ => True := by
  refine .attempt (fun _ _ _ => trivial) fun _ _ => ?_
  refine .act (c := Cmd.taskForIntervention payload.id workspace payload.expectedVersion)
    (M := fun found s => ∀ task, found = .ok task → Offered s task) ?_ fun found => ?_
  · exact fun s _ hrelies => ⟨trivial, fun task hfound =>
      offered_of_mem_tasks hrelies rfl (Result.mem_toOption.mpr hfound)⟩
  · refine .attempt (fun _ _ _ => trivial) fun task hok => ?_
    have hfound := Result.mapError_eq_ok.mp hok
    refine .given (fun s hs => (hs task hfound).linkable) fun hlink => ?_
    exact (honest_interveneOn hlink workspace payload).imp
      (fun s hs => (hs task hfound).isOpen) fun _ _ h => h

/-! ## Nudges -/

lemma sparing_nudgeIfIdle (now : Timestamp) (task : Task) :
    (nudgeIfIdle u now task).Uses Cmd.Sparing := by
  unfold nudgeIfIdle
  split
  · exact .ret _
  refine .bind (.call rfl) fun live => ?_
  split
  · refine .bind (.call rfl) fun idle => ?_
    split
    · refine .bind (.call rfl) fun pending => ?_
      split
      · exact .ret _
      · exact .bind (.call rfl) fun _ => .bind (.call rfl) fun _ =>
          .bind (.call rfl) fun _ => .call rfl
    · exact .ret _
  · exact .ret _

lemma honest_nudgeIfIdle (hlink : Linkable task) (now : Timestamp) :
    Honest u (Sim.StillOpen task) (nudgeIfIdle u now task) fun _ _ => True := by
  have hnote := asksFor_reminder (u := u) hlink silentTaskNudgeNote
  unfold nudgeIfIdle
  split
  · exact .ret fun _ _ => trivial
  refine .act (c := Cmd.sessionExists task.assignee) (M := fun _ => Sim.StillOpen task)
    (fun _ hs _ => ⟨trivial, hs⟩) fun live => ?_
  split
  swap
  · exact .ret fun _ _ => trivial
  refine .act (c := Cmd.isIdle task.assignee) (M := fun _ => Sim.StillOpen task)
    (fun _ hs _ => ⟨trivial, hs⟩) fun idle => ?_
  split
  swap
  · exact .ret fun _ _ => trivial
  refine .act (c := Cmd.pendingCount task.assignee) (M := fun pending s =>
    s.ctx.HasOpen task.id task.assignee ∧ (pending = 0 → s.ctx.Clear task.id task.assignee))
    (fun s hs _ => ⟨trivial, hs, clear_of_pendingCount task.id⟩) fun pending => ?_
  split
  · exact .ret fun _ _ => trivial
  · rename_i hempty
    refine .act (c := Cmd.now) (M := fun _ => Sim.Askable task)
      (fun s hs _ => ⟨trivial, hs.1, hs.2 (Nat.eq_zero_of_not_pos hempty)⟩) fun stamp => ?_
    refine .act (c := Cmd.enqueue _) (M := fun _ _ => True)
      (fun s hs _ => ⟨hnote.sanctioned hs, trivial⟩) fun msg => ?_
    exact honest_of_plain (.bind (.call trivial) fun _ => .call trivial)

/-- The silent tasks are nudged. -/
theorem honest_nudgePass : Honest u P (nudgePass u) fun _ _ => True := by
  refine honest_act trivial fun now => ?_
  refine .act (c := Cmd.listSilentInProgress now silentTaskStaleThreshold)
    (M := fun tasks s => ∀ task ∈ tasks, Offered s task) ?_ fun tasks => ?_
  · exact fun s _ hrelies => ⟨trivial, fun _ hmem => offered_of_mem_tasks hrelies rfl hmem⟩
  · refine (honest_forOffered (fun task _ => ?_) fun task _ hlink =>
      honest_nudgeIfIdle hlink now).bind fun _ => .ret fun _ _ => trivial
    exact sparing_nudgeIfIdle now task

/-! ## Jobs -/

lemma honest_handle (request : Request) : Honest u P (handle u request) fun _ _ => True := by
  cases request with
  | register payload => exact honest_of_plain (.bind (.call trivial) fun _ => .ret _)
  | unregister workspace =>
    exact honest_of_plain (plain_of_quiet (quiet_handleUnregister workspace))
  | setStatus workspace status =>
    exact honest_of_plain (.attempt fun _ _ => .bind (.call trivial) fun _ => .ret _)
  | recordMcpToolActivity workspace payload =>
    exact honest_of_plain (plain_of_quiet (quiet_handleRecordMcpToolActivity workspace payload))
  | sendMessage workspace payload =>
    exact honest_of_serves (w := workspace)
      (serves_handleSendMessage workspace posts_plainMail payload)
  | broadcast workspace payload =>
    exact honest_of_serves (w := workspace)
      (serves_handleBroadcast workspace posts_plainMail payload)
  | readMessages workspace payload => exact honest_handleReadMessages workspace payload
  | startTask workspace payload => exact honest_handleStartTask workspace payload
  | createTask workspace payload => exact honest_handleCreateTask workspace payload
  | getTask id => exact honest_of_plain (plain_of_quiet (quiet_handleGetTask id))
  | listTasks payload => exact honest_of_plain (.bind (.call trivial) fun _ => .ret _)
  | updateTask workspace payload => exact honest_handleUpdateTask workspace payload
  | cancelTask workspace payload =>
    exact honest_of_serves
      (serves_handleCancelTask (reliable_allTasks workspace) notifies_plainMail payload)
  | removeTask workspace payload =>
    exact honest_of_serves (serves_handleRemoveTask (reliable_allTasks workspace) payload)
  | interveneTask workspace payload => exact honest_handleInterveneTask workspace payload

/-- Every job keeps to what is sanctioned. -/
theorem honest_job (job : Job) : Honest u P (job.program u) fun _ _ => True := by
  cases job with
  | request request => exact (honest_handle request).bind fun _ => .ret fun _ _ => trivial
  | disconnect workspace id => exact honest_of_plain (.bind (.call trivial) fun _ => .ret _)
  | elsewhere workspace => exact honest_of_plain (plain_of_quiet (quiet_touchNow workspace))
  | wakePass => exact honest_process.bind fun _ => .ret fun _ _ => trivial
  | recoverPass => exact honest_of_plain (plain_of_quiet quiet_recoverPass)
  | nudgePass => exact honest_nudgePass

end Ax.Daemon
