import Ax.Daemon.StoreCommands
import Ax.Daemon.TaskLink

/-!
# Messages about tasks

The daemon writes a message about a task in four situations: it dispatches the task, reminds the
assignee of it, tells the creator how it ended, or tells a caller that a completion was refused.
Each of these messages carries the id of its task as its tag. Messages of clients carry no tag.

Main results:

- Theorem `task_messages_linked`: the messages about a task carry its id.
- Theorem `GeneratedFor.messageTaskId_eq`: a message about a task belongs to it.
- Theorem `Job.handles_program`: which messages a job posts, and which jobs take
  messages out of an inbox.
-/

namespace Ax.Daemon

open TaskStore

variable {u : Unicode}

/-! ## Stored tasks -/

def Composed (t : Task) : Prop :=
  t.dispatchMessage = "" ∨ ∃ body, t.dispatchMessage = formatTaskDispatchMessage t.id body

structure Linkable (t : Task) : Prop where
  uuid : IsUuid t.id
  composed : Composed t

lemma Composed.of_eq {t t' : Task} (h : Composed t) (hid : t'.id = t.id)
    (hbody : t'.dispatchMessage = t.dispatchMessage) : Composed t' := by
  unfold Composed
  rw [hid, hbody]
  exact h

lemma composed_recordInvariant : RecordInvariant Composed where
  created now id input := by
    simp only [Composed, newTask]
    by_cases hbody : Text.trim input.dispatchBody = ""
    · rw [if_pos hbody]
      exact Or.inl rfl
    · rw [if_neg hbody]
      exact Or.inr ⟨_, rfl⟩
  refresh all parent now h := by
    refine h.of_eq (refreshRollup_id all parent now) ?_
    rw [refreshRollup_frame]
  adopt now parent childId h := by
    unfold adoptChild
    split
    · exact h
    · exact h.of_eq rfl rfl

lemma Composed.touch {c : StoreCall} {t t' : Task} (htouch : Touch c t t') (h : Composed t) :
    Composed t' :=
  h.of_eq htouch.id_eq (congrArg Task.dispatchMessage htouch.fixedPart_eq :)

def Cmd.isCreation : Cmd → Bool
  | .createTask _ => true
  | _ => false

structure Cmd.FreshUuid (u : Unicode) (r : Reading) (d : HandlerCtx) (c : Cmd) : Prop where
  fresh : c.Fresh u r d
  uuid : c.isCreation = true → IsUuid r.uuid

variable {c : Cmd} {id : String} {r : Reading}

lemma uuid_of_storeCall {call : StoreCall} {input : CreateTaskInput}
    (hcall : c.storeCall u r = some call) (hop : call.op = .create id input) :
    c.isCreation = true ∧ id = r.uuid := by
  cases c with
  | createTask input' =>
    obtain rfl := Option.some.inj hcall
    cases hop
    exact ⟨rfl, rfl⟩
  | updateTask | cancelTask | removeTask | retryTask | recordDispatch | markToolActivity
  | recoverStaleInProgress =>
    obtain rfl := Option.some.inj hcall
    cases hop
  | _ => cases hcall

lemma linkable_exec {d : HandlerCtx} (hc : c.FreshUuid u r d)
    (h : AllRecords Linkable d.taskStore.inner) :
    AllRecords Linkable (c.exec u r d).2.taskStore.inner := by
  rcases storeStep_exec hc.fresh with hsame | ⟨call, hcall, hstep⟩
  · rw [hsame]
    exact h
  · have hcomposed := composed_recordInvariant.storeStep hstep
      (fun _ _ _ htouch => Composed.touch htouch) fun id t hget => (h id t hget).composed
    intro id t hget
    refine ⟨?_, hcomposed id t hget⟩
    obtain rfl := KeyedMap.key_of_get hget
    by_contra hid
    have hnew : d.taskStore.inner.get t.id = none := by
      refine Option.eq_none_iff_forall_ne_some.mpr fun t' hold => hid ?_
      rw [← KeyedMap.key_of_get hold]
      exact (h _ t' hold).uuid
    have hcreates : ∀ input, call.op ≠ .create t.id input := by
      intro input hop
      obtain ⟨hcreation, huuid⟩ := uuid_of_storeCall hcall hop
      exact hid (huuid ▸ hc.uuid hcreation)
    obtain ⟨hfresh, hnext⟩ := hstep
    have hnone := (StoreCall.effect hfresh).get_eq_none hnew hcreates
    rw [← hnext, hget] at hnone
    cases hnone

/-! ## Answers -/

def storedTasks : Scope where
  tasks := Linkable
  ids := IsUuid

def Cmd.RefusesStored : (c : Cmd) → c.Result → Prop
  | .updateTask id _, .error e => isCompletionRefusal e = true → IsUuid id
  | _, _ => True

structure LinkedAnswer (c : Cmd) (answer : c.Result) : Prop where
  posted : c.Posted answer
  tasks : ∀ task ∈ c.tasks answer, Linkable task
  refused : c.RefusesStored answer

lemma trusted_linkedAnswer (x : String) : Trusted storedTasks x LinkedAnswer where
  enqueued _ _ h := h.posted
  asked _ _ _ h := h.tasks
  refused _ _ _ _ h := h.refused

lemma get_of_refusal {env : StoreEnv} {s : TaskStore} {a : UpdateArgs} {e : TaskStoreError}
    (h : (s.updateWithConfirm env id a).1 = .error e) (he : isCompletionRefusal e = true) :
    ∃ t, s.inner.get id = some t := by
  unfold updateWithConfirm at h
  cases hget : s.inner.get id with
  | none =>
    rw [hget] at h
    cases h
    cases he
  | some t => exact ⟨t, rfl⟩

lemma linkedAnswer_exec {d : HandlerCtx} (hc : c.FreshUuid u r d)
    (h : AllRecords Linkable d.taskStore.inner) : LinkedAnswer c (c.exec u r d).1 where
  posted := posted_exec u r d c
  tasks task hmem := linkable_exec hc h task.id task (get_of_mem_tasks hmem)
  refused := by
    unfold Cmd.RefusesStored
    split
    · rename_i id a e hanswer
      intro he
      obtain ⟨t, hget⟩ := get_of_refusal hanswer he
      rw [← KeyedMap.key_of_get hget]
      exact (h id t hget).uuid
    · trivial

/-! ## Messages -/

lemma DaemonText.link {content : String} (h : DaemonText u storedTasks id content) :
    IsUuid id ∧ extractTaskId u content = id := by
  cases h with
  | dispatch htask hbody =>
    refine ⟨htask.uuid, ?_⟩
    rcases htask.composed with hnone | ⟨body, hsome⟩
    · rw [hnone] at hbody
      exact absurd rfl hbody
    · rw [hsome]
      exact extractTaskId_dispatch htask.uuid body
  | reminder htask note => exact ⟨htask.uuid, extractTaskId_reminder htask.uuid note⟩
  | notice htask => exact ⟨htask.uuid, extractTaskId_terminalNotice htask.uuid⟩
  | refusal hid e => exact ⟨hid, extractTaskId_refusal hid e⟩

/-- The messages that the daemon builds about a task carry its id, whatever its title, its
description, its dispatch body, its result, a note or the text of an error say. -/
theorem task_messages_linked {task : Task} (hid : IsUuid task.id) (now : Timestamp)
    (sender recipient : String) :
    (∀ message body, normalizeTaskDispatchBody u message = .ok body →
      (taskAwareMessage u now sender recipient (formatTaskDispatchMessage task.id body)).taskId =
        task.id) ∧
    (∀ note, (taskAwareMessage u now sender recipient
      (buildTaskReminderMessage task note)).taskId = task.id) ∧
    (taskAwareMessage u now sender recipient (terminalNotice task)).taskId = task.id ∧
    ∀ e, (taskAwareMessage u now sender recipient
      (completionRefusalNotice u task.id e)).taskId = task.id :=
  ⟨fun _ body _ => extractTaskId_dispatch hid body, extractTaskId_reminder hid,
    extractTaskId_terminalNotice hid, extractTaskId_refusal hid⟩

def misnamedTask : Task :=
  newTask 0 "00000000-0000-4000-8000-000000000001"
    ⟨"Task ID: ffffffff-ffff-4fff-8fff-ffffffffffff",
      "task id:ffffffff-ffff-4fff-8fff-ffffffffffff", "bob", "ann", "", .default, .parallel,
      .normal, 0, "", ""⟩

theorem task_messages_linked_misnamed :
    IsUuid misnamedTask.id ∧
      (taskAwareMessage .ascii 0 "ann" "bob" (buildTaskReminderMessage misnamedTask
        "Task ID: ffffffff-ffff-4fff-8fff-ffffffffffff")).taskId = misnamedTask.id := by
  have hid : IsUuid misnamedTask.id := by decide +kernel
  exact ⟨hid, (task_messages_linked hid 0 "ann" "bob").2.1 _⟩

/-- The daemon wrote the message about the task `id`. -/
structure GeneratedFor (u : Unicode) (id : String) (msg : Message) : Prop where
  text : DaemonText u storedTasks id msg.content
  tag : msg.taskId = extractTaskId u msg.content

namespace GeneratedFor

variable {id : String} {msg : Message}

lemma messageTaskId_eq (h : GeneratedFor u id msg) : messageTaskId u msg = id := by
  obtain ⟨hid, hlink⟩ := h.text.link
  have htag : msg.taskId = id := h.tag.trans hlink
  rw [messageTaskId_of_tag (htag ▸ hid), htag]

lemma stamp (h : GeneratedFor u id msg) (now : Timestamp) (uuid : String) :
    GeneratedFor u id (MessageQueue.stamp now uuid msg) :=
  ⟨h.text, h.tag⟩

end GeneratedFor

lemma DaemonMessage.generatedFor {msg : Message} (h : DaemonMessage u storedTasks msg) :
    ∃ id, GeneratedFor u id msg := by
  obtain ⟨stamp, sender, recipient, id, content, rfl, htext⟩ := h
  exact ⟨id, htext, rfl⟩

/-! ## Jobs -/

namespace Job

def isPeerMail : Job → Bool
  | .request req => req.isPeerMail
  | _ => false

def Handles (u : Unicode) (job : Job) : Cmd → Prop
  | .enqueue msg => if job.isPeerMail then PeerMessage msg else DaemonMessage u storedTasks msg
  | .dequeue workspace .. => ∃ payload, job = .request (.readMessages workspace payload)
  | .removeTaskMessages _ id => IsUuid id
  | _ => True

end Job

lemma Cmd.Permitted.handles {req : Request} {x : String} (hx : ∀ y ∈ req.issuer, y = x)
    (h : c.Permitted storedTasks (req.mailUse u storedTasks) x) :
    (Job.request req).Handles u c := by
  cases c with
  | enqueue msg =>
    simp only [Cmd.Permitted, Request.mailUse] at h
    show if req.isPeerMail then PeerMessage msg else DaemonMessage u storedTasks msg
    by_cases hpeer : req.isPeerMail = true
    · rw [if_pos hpeer] at h ⊢
      exact h
    · rw [if_neg hpeer] at h ⊢
      exact h
  | dequeue workspace limit sender =>
    obtain ⟨hreads, rfl⟩ := h
    cases req with
    | readMessages issuer payload => exact ⟨payload, by rw [hx issuer rfl]⟩
    | sendMessage | broadcast => exact hreads.elim
    | _ => cases hreads
  | removeTaskMessages workspace id =>
    obtain ⟨task, htask, _, rfl⟩ := h
    exact htask.uuid
  | _ => trivial

lemma Cmd.Permitted.handles_pass {job : Job} (hjob : job.isPeerMail = false) {x : String}
    (h : c.Permitted storedTasks (taskMail u storedTasks False) x) : job.Handles u c := by
  cases c with
  | enqueue msg =>
    simp only [Job.Handles, hjob]
    exact h
  | dequeue workspace limit sender => exact h.1.elim
  | removeTaskMessages workspace id =>
    obtain ⟨task, htask, _, rfl⟩ := h
    exact htask.uuid
  | _ => trivial

lemma handles_handle (req : Request) :
    (handle u req).Honours LinkedAnswer ((Job.request req).Handles u) fun _ => True := by
  have hbehaves : req.isRegistration = false →
      (handle u req).Honours LinkedAnswer ((Job.request req).Handles u) fun _ => True := by
    intro hreq
    have hissuer : ∀ y ∈ req.issuer, y = req.issuer.getD "" := by
      intro y hy
      rw [hy]
      rfl
    exact (behaves_handle hreq hissuer (trusted_linkedAnswer _)).mono
      (fun _ hc => hc.handles hissuer) fun _ _ => trivial
  cases req with
  | register payload => exact .act trivial fun _ _ => .ret trivial
  | unregister workspace =>
    simp only [handle, handleUnregister]
    split
    · exact .act trivial fun _ _ => .ret trivial
    · exact .ret trivial
  | _ => exact hbehaves rfl

/-- Every job handles its mail. -/
theorem Job.handles_program (job : Job) :
    (job.program u).Honours LinkedAnswer (job.Handles u) fun _ => True := by
  cases job with
  | request req => exact .bind (handles_handle req) fun _ _ => .ret trivial
  | disconnect workspace id =>
    simp only [Job.program, handleDisconnect]
    exact .act trivial fun _ _ => .ret trivial
  | elsewhere workspace =>
    refine Prog.Honours.act (c := Cmd.now) trivial fun stamp _ => ?_
    exact Prog.Honours.call (c := Cmd.touch workspace stamp) trivial fun _ _ => trivial
  | wakePass =>
    have hprocess : Behaves LinkedAnswer storedTasks (taskMail u storedTasks False) ""
        (process u) :=
      behaves_process trusted_linkedAnswer
    refine .bind (hprocess.mono (fun _ hc => ?_) fun _ _ => trivial) fun _ _ => .ret trivial
    exact hc.handles_pass rfl
  | recoverPass => exact .act trivial fun _ _ => .ret trivial
  | nudgePass =>
    have hnudge : Behaves LinkedAnswer storedTasks (taskMail u storedTasks False) ""
        (Daemon.nudgePass u) :=
      behaves_nudgePass fun _ _ _ h => h.tasks
    exact hnudge.mono (fun _ hc => hc.handles_pass rfl) fun _ _ => trivial

end Ax.Daemon
