import Ax.Foundation.Protocols
import Ax.Foundation.Result
import Ax.Daemon.Server

/-!
# What a job may do

The critical sections that the requests and the passes of the daemon enter, and
where the data in them comes from.  A request acts on the task store in the name
of its workspace.  It dispatches, purges and reports tasks that the store has just
answered with, so whatever is true of the answers is true of these tasks.

Main results:

- Theorem `behaves_handle`: every request stays within its footprint.
- Theorems `behaves_process` and `behaves_nudgePass`: so do the background passes.
-/

namespace Ax.Daemon

/-! ## Footprints -/

def Cmd.tasks : (c : Cmd) → c.Result → List Task
  | .createTask _, answer | .updateTask .., answer | .cancelTask .., answer
  | .removeTask .., answer | .retryTask .., answer | .taskForIntervention .., answer =>
    answer.toOption.toList
  | .runnableByAssignee _, tasks | .listSilentInProgress .., tasks => tasks
  | _, _ => []

def Cmd.asksFor : Cmd → Option String
  | .createTask input => some input.createdBy
  | .updateTask _ a => some a.workspace
  | .cancelTask _ _ workspace _ | .removeTask _ _ workspace _ | .retryTask _ _ workspace _
  | .taskForIntervention _ workspace _ | .runnableByAssignee workspace => some workspace
  | _ => none

structure Scope where
  tasks : Task → Prop
  ids : String → Prop

def allTasks : Scope where
  tasks _ := True
  ids _ := True

inductive DaemonText (u : Unicode) (S : Scope) : String → String → Prop
  | dispatch {task : Task} (htask : S.tasks task) (hbody : Text.trim task.dispatchMessage ≠ "") :
      DaemonText u S task.id task.dispatchMessage
  | reminder {task : Task} (htask : S.tasks task) (note : String) :
      DaemonText u S task.id (buildTaskReminderMessage task note)
  | notice {task : Task} (htask : S.tasks task) : DaemonText u S task.id (terminalNotice task)
  | refusal {id : String} (hid : S.ids id) (e : TaskStoreError) :
      DaemonText u S id (completionRefusalNotice u id e)

def DaemonMessage (u : Unicode) (S : Scope) (msg : Message) : Prop :=
  ∃ stamp sender recipient id content,
    msg = taskAwareMessage u stamp sender recipient content ∧ DaemonText u S id content

def PeerMessage (msg : Message) : Prop :=
  msg.taskId = ""

structure MailUse where
  posts : Message → Prop
  reads : Prop

def peerMail : MailUse where
  posts := PeerMessage
  reads := False

def taskMail (u : Unicode) (S : Scope) (reads : Prop) : MailUse where
  posts := DaemonMessage u S
  reads := reads

/-- The commands of a job in the name of `x`. -/
def Cmd.Permitted (S : Scope) (mail : MailUse) (x : String) : Cmd → Prop
  | .createTask input => input.createdBy = x
  | .updateTask _ a => a.workspace = x
  | .cancelTask _ _ workspace _ | .removeTask _ _ workspace _ | .retryTask _ _ workspace _
  | .markToolActivity _ workspace _ => workspace = x
  | .dequeue workspace .. => mail.reads ∧ workspace = x
  | .recordDispatch id recipient _ => ∃ task, S.tasks task ∧ id = task.id ∧
      recipient = task.assignee
  | .removeTaskMessages workspace id => ∃ task, S.tasks task ∧ workspace = task.assignee ∧
      id = task.id
  | .enqueue msg => mail.posts msg
  | .register .. | .unregister _ | .unregisterIf .. | .recoverStaleInProgress => False
  | _ => True

def Cmd.Posted : (c : Cmd) → c.Result → Prop
  | .enqueue msg, posted => posted.recipient = msg.recipient
  | _, _ => True

/-- The answers to `x` are within the scope. -/
structure Trusted (S : Scope) (x : String) (rely : (c : Cmd) → c.Result → Prop) : Prop where
  enqueued : ∀ msg posted, rely (.enqueue msg) posted → (Cmd.enqueue msg).Posted posted
  asked : ∀ c answer, x ∈ c.asksFor → rely c answer → ∀ task ∈ c.tasks answer, S.tasks task
  refused : ∀ id a e, a.workspace = x → rely (.updateTask id a) (.error e) →
    isCompletionRefusal e = true → S.ids id

/-- What a program in the name of `x` relies on to stay within the scope. -/
structure Reliable (S : Scope) (x : String) (rely : (c : Cmd) → c.Result → Prop) : Prop where
  addressed : ∀ {msg posted task}, rely (.enqueue msg) posted → S.tasks task →
    msg.recipient = task.assignee →
    ∃ task', S.tasks task' ∧ task.id = task'.id ∧ posted.recipient = task'.assignee
  asked : ∀ c answer, x ∈ c.asksFor → rely c answer → ∀ task ∈ c.tasks answer, S.tasks task
  refused : ∀ id a e, a.workspace = x → rely (.updateTask id a) (.error e) →
    isCompletionRefusal e = true → S.ids id

lemma Trusted.reliable {S : Scope} {x : String} {rely : (c : Cmd) → c.Result → Prop}
    (h : Trusted S x rely) : Reliable S x rely where
  addressed hposted htask hmsg := ⟨_, htask, rfl, (h.enqueued _ _ hposted).trans hmsg⟩
  asked := h.asked
  refused := h.refused

lemma reliable_allTasks (x : String) : Reliable allTasks x fun _ _ => True where
  addressed {_ posted task} _ _ _ :=
    ⟨{ task with assignee := posted.recipient }, trivial, rfl, rfl⟩
  asked _ _ _ _ _ _ := trivial
  refused _ _ _ _ _ _ := trivial

/-- The program stays within the footprint of a job in the name of `x`. -/
abbrev Behaves {α : Type} (rely : (c : Cmd) → c.Result → Prop) (S : Scope)
    (mail : MailUse) (x : String) (p : Program α) : Prop :=
  p.Honours rely (Cmd.Permitted S mail x) fun _ => True

variable {u : Unicode} {α : Type} {rely : (c : Cmd) → c.Result → Prop} {S : Scope}
  {mail : MailUse} {reads : Prop} {x : String}

/-! ## Programs of clients -/

/-- The inbox that the answer tells to be empty. -/
def Cmd.drained : (c : Cmd) → c.Result → Option String
  | .pendingCount workspace, pending => if pending = 0 then some workspace else none
  | _, _ => none

/-- The commands of a client: a wake is dropped only right after its inbox was found to be
empty, and neither counted nor put off. -/
def Cmd.Serving (S : Scope) (mail : MailUse) (x : String) (drained : Option String) : Cmd → Prop
  | .cancelWake workspace => drained = some workspace
  | .advanceAttempt .. | .postpone _ => False
  | c => c.Permitted S mail x

lemma Cmd.Serving.permitted {drained : Option String} {c : Cmd}
    (h : c.Serving S mail x drained) : c.Permitted S mail x := by
  cases c with
  | cancelWake workspace => trivial
  | advanceAttempt workspace result => exact h.elim
  | postpone workspace => exact h.elim
  | _ => exact h

lemma Cmd.Serving.always {c : Cmd} (h : c.Serving S mail x none) (drained : Option String) :
    c.Serving S mail x drained := by
  cases c with
  | cancelWake workspace => cases h
  | _ => exact h

def clientProtocol (rely : (c : Cmd) → c.Result → Prop) (S : Scope) (mail : MailUse)
    (x : String) : Protocol Cmd.Result (Option String) where
  rely := rely
  allowed drained := Cmd.Serving S mail x drained
  next _ c answer := c.drained answer

/-- The program is one of a client in the name of `x`. -/
structure Serves {α : Type} (rely : (c : Cmd) → c.Result → Prop) (S : Scope) (mail : MailUse)
    (x : String) (p : Program α) : Prop where
  follows : ∀ drained, (clientProtocol rely S mail x).Follows (fun _ _ => True) drained p

namespace Serves

variable {β ε : Type} {p : Program α} {c : Cmd}

lemma behaves (h : Serves rely S mail x p) : Behaves rely S mail x p :=
  (h.follows none).honours fun _ _ => Cmd.Serving.permitted

lemma ret (a : α) : Serves rely S mail x (pure a : Program α) :=
  ⟨fun _ => .ret trivial⟩

lemma act {f : c.Result → Program α} (hc : c.Serving S mail x none)
    (hf : ∀ answer, rely c answer → Serves rely S mail x (f answer)) :
    Serves rely S mail x (perform c >>= f) :=
  ⟨fun drained => .act (hc.always drained) fun answer hanswer => (hf answer hanswer).follows _⟩

lemma call (hc : c.Serving S mail x none) : Serves rely S mail x (perform c) :=
  act hc fun answer _ => ret answer

lemma bind {f : α → Program β} (hp : Serves rely S mail x p)
    (hf : ∀ a, Serves rely S mail x (f a)) : Serves rely S mail x (p >>= f) :=
  ⟨fun drained => (hp.follows drained).bind fun a _ _ => (hf a).follows _⟩

lemma mapM {f : α → Program β} {xs : List α} (h : ∀ y ∈ xs, Serves rely S mail x (f y)) :
    Serves rely S mail x (Prog.mapM f xs) := by
  induction xs with
  | nil => exact ret _
  | cons y ys ih =>
    refine bind (h y List.mem_cons_self) fun _ => ?_
    exact bind (ih fun z hz => h z (List.mem_cons_of_mem y hz)) fun _ => ret _

lemma attempt {r : Except ε α} {f : α → Program (Except ε β)}
    (h : ∀ a, r = .ok a → Serves rely S mail x (f a)) :
    Serves rely S mail x (Prog.attempt r f) := by
  cases r with
  | error e => exact ret _
  | ok a => exact h a rfl

end Serves

/-! ## Parts of handlers -/

variable (workspace : String)

lemma serves_touchNow : Serves rely S mail x (touchNow workspace) :=
  .act trivial fun _ _ => .call trivial

lemma serves_currentAxBin : Serves rely S mail x currentAxBin :=
  .act trivial fun _ _ => .ret _

lemma serves_refreshedTask (id : String) (task : Task) :
    Serves rely S mail x (refreshedTask id task) :=
  .act trivial fun _ _ => .ret _

lemma serves_postMessage (hpeer : ∀ msg, PeerMessage msg → mail.posts msg)
    (sender recipient content : String) :
    Serves rely S mail x (postMessage sender recipient content) :=
  .act trivial fun _ _ => .act trivial fun _ _ => .call (hpeer _ rfl)

lemma serves_dispatchRecipients (configPath workspace : String) (recipients : List String) :
    Serves rely S mail x (dispatchRecipients configPath workspace recipients) := by
  induction recipients with
  | nil => exact .ret _
  | cons recipient rest ih => exact .act trivial fun _ _ => .attempt fun _ _ => ih

lemma serves_cancelWakeIfDrained : Serves rely S mail x (cancelWakeIfDrained workspace) where
  follows _ := by
    refine .act trivial fun pending _ => ?_
    split
    · rename_i hzero
      exact .act (if_pos hzero) fun _ _ => .ret trivial
    · exact .ret trivial

variable {task : Task}

lemma serves_purgeTaskMessages (htask : S.tasks task) :
    Serves rely S mail x (purgeTaskMessages task.assignee task.id) :=
  .act ⟨task, htask, rfl, rfl⟩ fun _ _ => serves_cancelWakeIfDrained task.assignee

lemma daemonText_taskDispatchContent (htask : S.tasks task) (note : String) :
    DaemonText u S task.id (taskDispatchContent task note) := by
  unfold taskDispatchContent
  split
  · rename_i hbody
    exact .dispatch htask hbody.2
  · exact .reminder htask note

section Deliveries

variable {y : String} (h : Reliable S y rely) {task : Task}
include h

lemma serves_enqueueTaskMessage (htask : S.tasks task) (sender : String) {content : String}
    (hcontent : DaemonText u S task.id content) :
    Serves rely S (taskMail u S reads) x (enqueueTaskMessage u task sender content) := by
  refine .act trivial fun stamp _ => .act ?_ fun msg hmsg => ?_
  · exact ⟨stamp, sender, task.assignee, task.id, content, rfl, hcontent⟩
  · refine .act ?_ fun _ _ => .ret _
    exact h.addressed hmsg htask rfl

lemma serves_refillRunnableTaskMessages (sender : String) :
    Serves rely S (taskMail u S reads) x (refillRunnableTaskMessages u y sender) := by
  refine .act trivial fun tasks htasks => ?_
  have hscope := h.asked (.runnableByAssignee y) tasks rfl htasks
  refine .bind (.mapM fun task hmem => ?_) fun _ => .ret _
  refine .act trivial fun unread _ => ?_
  split
  · exact .ret _
  · have htask := hscope task hmem
    have htext := daemonText_taskDispatchContent (u := u) htask ""
    exact .bind (serves_enqueueTaskMessage h htask sender htext) fun _ => .ret _

variable (htask : S.tasks task)
include htask

lemma serves_deliverTask (sender : String) {content : String}
    (hcontent : DaemonText u S task.id content) :
    Serves rely S (taskMail u S reads) x (deliverTask u task sender content) := by
  refine .bind (serves_enqueueTaskMessage h htask sender hcontent) fun _ => ?_
  exact .act trivial fun _ _ => .ret _

lemma serves_dispatchTaskStart :
    Serves rely S (taskMail u S reads) x (dispatchTaskStart u task) := by
  unfold dispatchTaskStart
  split
  · exact .ret _
  · exact .ret _
  · rename_i assignee configPath hplan
    have hbody : Text.trim task.dispatchMessage ≠ "" := by
      intro hblank
      simp only [planTaskStartDispatch, hblank] at hplan
      split at hplan <;> simp at hplan
    refine .bind (serves_deliverTask h htask _ (.dispatch htask hbody)) fun _ => ?_
    split
    · exact .ret _
    · exact .act trivial fun _ _ => .attempt fun _ _ => .ret _

lemma serves_dispatchCreatedTask :
    Serves rely S (taskMail u S reads) x (dispatchCreatedTask u task) := by
  unfold dispatchCreatedTask
  split
  · refine .bind (serves_deliverTask h htask _ (.reminder htask "")) fun _ => ?_
    exact serves_refreshedTask _ _
  · exact .ret _

lemma serves_queueTaskWake (assignee sender : String) :
    Serves rely S (taskMail u S reads) x (queueTaskWake u task assignee sender) := by
  refine .bind (.act trivial fun unread _ => ?_) fun _ => ?_
  · split
    · exact .ret _
    · exact .bind (serves_enqueueTaskMessage h htask sender (.reminder htask _))
        fun _ => .ret _
  · exact .act trivial fun _ _ => .ret _

lemma serves_dispatchTaskWake (sender : String) :
    Serves rely S (taskMail u S reads) x (dispatchTaskWake u task sender) := by
  refine .act trivial fun live _ => ?_
  split
  · split
    · exact .act trivial fun _ _ => .ret _
    · refine .bind (serves_queueTaskWake h htask _ sender) fun _ => ?_
      exact .act trivial fun _ _ => .ret _
  · exact .act trivial fun _ _ => .ret _
  · exact .ret _

lemma serves_afterRetry {retried : Task} (hretried : S.tasks retried) (workspace : String)
    (payload : InterveneTaskPayload) :
    Serves rely S (taskMail u S reads) x (afterRetry u workspace payload task retried) := by
  refine .bind (.act ⟨task, htask, rfl, rfl⟩ fun _ _ => ?_) fun _ => ?_
  · refine .bind (serves_enqueueTaskMessage h hretried workspace ?_) fun _ => ?_
    · exact .reminder hretried _
    · exact .act trivial fun _ _ => .ret _
  · dsimp only
    split
    · exact .bind (serves_refreshedTask _ _) fun _ => .ret _
    · refine .act trivial fun _ _ => .attempt fun _ _ => ?_
      exact .bind (serves_refreshedTask _ _) fun _ => .ret _

end Deliveries

/-- The creators of tasks in the scope may be told how these ended. -/
def MailUse.Notifies (u : Unicode) (S : Scope) (mail : MailUse) : Prop :=
  ∀ task stamp creator, S.tasks task →
    mail.posts (taskAwareMessage u stamp task.assignee creator (terminalNotice task))

lemma notifies_taskMail : (taskMail u S reads).Notifies u S :=
  fun task stamp creator htask =>
    ⟨stamp, task.assignee, creator, task.id, terminalNotice task, rfl, .notice htask⟩

lemma serves_notifyCreatorOfTerminalStatus (hmail : mail.Notifies u S) (htask : S.tasks task) :
    Serves rely S mail x (notifyCreatorOfTerminalStatus u task) := by
  unfold notifyCreatorOfTerminalStatus
  split
  · exact .ret _
  · rename_i creator _
    refine .act trivial fun stamp _ => .act ?_ fun _ _ => .call trivial
    exact hmail task stamp creator htask

lemma serves_afterUpdate (hmail : mail.Notifies u S) (htask : S.tasks task) :
    Serves rely S mail x (afterUpdate u workspace task) := by
  refine .bind (serves_touchNow workspace) fun _ => ?_
  refine .bind ?_ fun _ => .ret _
  unfold applyTaskStateFollowup
  split
  · exact .ret _
  · rename_i assignee taskId hplan
    have hnames : assignee = task.assignee ∧ taskId = task.id := by
      unfold planTaskStateFollowup at hplan
      split at hplan
      all_goals simp_all
    rw [hnames.1, hnames.2]
    refine .bind (serves_purgeTaskMessages htask) fun _ => ?_
    exact serves_notifyCreatorOfTerminalStatus hmail htask

/-! ## Requests -/

section PeerMail

variable (hpeer : ∀ msg, PeerMessage msg → mail.posts msg)
include hpeer

lemma serves_handleSendMessage (payload : SendMessagePayload) :
    Serves rely S mail x (handleSendMessage workspace payload) := by
  have hsend : Serves rely S mail x (sendMessage workspace payload.to_ payload.message) := by
    refine .bind (serves_postMessage hpeer workspace _ _) fun _ => ?_
    exact .act trivial fun _ _ => .act trivial fun _ _ => .ret _
  refine .bind serves_currentAxBin fun _ => .attempt fun _ _ => .attempt fun _ _ => ?_
  split
  · exact .ret _
  · exact .bind hsend fun _ => .ret _
  · refine .bind hsend fun _ => .act trivial fun _ _ => ?_
    exact .attempt fun _ _ => .ret _

lemma serves_handleBroadcast (payload : BroadcastPayload) :
    Serves rely S mail x (handleBroadcast workspace payload) := by
  refine .bind serves_currentAxBin fun _ => .attempt fun _ _ => .attempt fun _ _ => ?_
  refine .act trivial fun names _ => .bind (.mapM fun recipient _ => ?_) fun _ => ?_
  · exact .bind (serves_postMessage hpeer workspace recipient _) fun _ => .call trivial
  · refine .bind (serves_touchNow workspace) fun _ => ?_
    dsimp only
    split
    · exact .ret _
    · refine .bind (serves_dispatchRecipients _ workspace _) fun _ => ?_
      exact .attempt fun _ _ => .ret _

end PeerMail

lemma serves_handleRecordMcpToolActivity (payload : RecordMcpToolActivityPayload) :
    Serves rely S mail x (handleRecordMcpToolActivity x payload) := by
  refine .attempt fun _ _ => ?_
  split
  · exact .ret _
  · split
    · exact .ret _
    · refine .act trivial fun stamp _ => .act trivial fun _ _ => ?_
      dsimp only
      split
      · exact .ret _
      · exact .act rfl fun _ _ => .ret _

lemma serves_interveneInterrupt (action : String) (task : Task) :
    Serves rely S mail x (interveneInterrupt u action task) := by
  refine .act trivial fun live _ => ?_
  split
  · exact .act trivial fun _ _ => .ret _
  · exact .ret _

lemma serves_handleGetTask (id : String) : Serves rely S mail x (handleGetTask u id) := by
  refine .act trivial fun found _ => ?_
  split
  · exact .ret _
  · exact .ret _

section Requests

variable (h : Reliable S x rely)
include h

lemma serves_handleReadMessages (hreads : reads) (payload : ReadMessagesPayload) :
    Serves rely S (taskMail u S reads) x (handleReadMessages u x payload) := by
  refine .attempt fun _ _ => .bind ?_ fun _ => ?_
  · refine .act trivial fun pending _ => ?_
    split
    · refine .act trivial fun wake _ => ?_
      split
      · exact .ret _
      · exact .bind (serves_refillRunnableTaskMessages h _) fun _ => .ret _
    · exact .ret _
  · refine .act ⟨hreads, rfl⟩ fun _ _ => ?_
    refine .bind (serves_touchNow x) fun _ => ?_
    exact .bind (serves_cancelWakeIfDrained x) fun _ => .ret _

lemma serves_handleStartTask (payload : StartTaskPayload) :
    Serves rely S (taskMail u S reads) x (handleStartTask u x payload) := by
  refine .attempt fun _ _ => .attempt fun _ _ => .attempt fun _ _ => ?_
  refine .bind (.act trivial fun _ _ => .ret _) fun _ => ?_
  refine .act rfl fun created hcreated => .attempt fun task htask => ?_
  obtain rfl := Result.mapError_eq_ok.mp htask
  have hscope := h.asked _ _ rfl hcreated task List.mem_cons_self
  refine .bind (serves_dispatchTaskStart h hscope) fun _ => .attempt fun _ _ => ?_
  refine .bind (serves_touchNow x) fun _ => ?_
  exact .bind (serves_refreshedTask _ _) fun _ => .ret _

lemma serves_handleCreateTask (payload : CreateTaskPayload) :
    Serves rely S (taskMail u S reads) x (handleCreateTask u x payload) := by
  refine .attempt fun _ _ => .attempt fun _ _ => ?_
  refine .act rfl fun created hcreated => .attempt fun task htask => ?_
  obtain rfl := Result.mapError_eq_ok.mp htask
  have hscope := h.asked _ _ rfl hcreated task List.mem_cons_self
  refine .bind (serves_dispatchCreatedTask h hscope) fun _ => ?_
  exact .bind (serves_touchNow x) fun _ => .ret _

lemma serves_handleUpdateTask (payload : UpdateTaskPayload) :
    Serves rely S (taskMail u S reads) x (handleUpdateTask u x payload) := by
  refine .attempt fun _ _ => .act rfl fun updated hupdated => ?_
  cases updated with
  | ok task =>
    have hscope := h.asked _ _ rfl hupdated task List.mem_cons_self
    exact serves_afterUpdate x notifies_taskMail hscope
  | error e =>
    simp only [settleUpdate, afterRefusal]
    split
    · rename_i hrefusal
      have hid := h.refused _ _ e rfl hupdated hrefusal
      refine .bind (.act trivial fun stamp _ => ?_) fun _ => .ret _
      exact .call ⟨stamp, _, _, _, _, rfl, .refusal hid e⟩
    · exact .ret _

lemma serves_handleCancelTask (hmail : mail.Notifies u S) (payload : CloseTaskPayload) :
    Serves rely S mail x (handleCancelTask u x payload) := by
  refine .attempt fun _ _ => .act rfl fun cancelled hcancelled => .attempt fun task htask => ?_
  obtain rfl := Result.mapError_eq_ok.mp htask
  exact serves_afterUpdate x hmail (h.asked _ _ rfl hcancelled task List.mem_cons_self)

lemma serves_handleRemoveTask (payload : CloseTaskPayload) :
    Serves rely S mail x (handleRemoveTask u x payload) := by
  refine .attempt fun _ _ => .act rfl fun removed hremoved => .attempt fun task htask => ?_
  obtain rfl := Result.mapError_eq_ok.mp htask
  have hscope := h.asked _ _ rfl hremoved task List.mem_cons_self
  refine .bind (serves_touchNow x) fun _ => ?_
  exact .bind (serves_purgeTaskMessages hscope) fun _ => .ret _

lemma serves_interveneAction (payload : InterveneTaskPayload) {task : Task}
    (htask : S.tasks task) :
    Serves rely S (taskMail u S reads) x (interveneAction u x payload task) := by
  unfold interveneAction
  split
  · refine .bind (serves_dispatchTaskWake h htask x) fun _ => .attempt fun _ _ => ?_
    exact .bind (serves_refreshedTask _ _) fun _ => .ret _
  · exact serves_interveneInterrupt _ task
  · refine .act rfl fun result hresult => .attempt fun retried hretried => ?_
    obtain rfl := Result.mapError_eq_ok.mp hretried
    have hscope := h.asked _ _ rfl hresult retried List.mem_cons_self
    exact serves_afterRetry h htask hscope x payload
  · exact .ret _

lemma serves_handleInterveneTask (payload : InterveneTaskPayload) :
    Serves rely S (taskMail u S reads) x (handleInterveneTask u x payload) := by
  refine .attempt fun _ _ => .act trivial fun found hfound => .attempt fun task htask => ?_
  obtain rfl := Result.mapError_eq_ok.mp htask
  have hscope := h.asked _ _ rfl hfound task List.mem_cons_self
  refine .bind (serves_interveneAction h payload hscope) fun _ => .attempt fun _ _ => ?_
  exact .bind (serves_touchNow x) fun _ => .ret _

end Requests

namespace Request

def issuer : Request → Option String
  | .unregister workspace | .setStatus workspace _ | .recordMcpToolActivity workspace _
  | .sendMessage workspace _ | .broadcast workspace _ | .readMessages workspace _
  | .startTask workspace _ | .createTask workspace _ | .updateTask workspace _
  | .cancelTask workspace _ | .removeTask workspace _ | .interveneTask workspace _ => some workspace
  | .register _ | .getTask _ | .listTasks _ => none

def isRegistration : Request → Bool
  | .register _ | .unregister _ => true
  | _ => false

def isPeerMail : Request → Bool
  | .sendMessage .. | .broadcast .. => true
  | _ => false

def isReading : Request → Bool
  | .readMessages .. => true
  | _ => false

def mailUse (u : Unicode) (S : Scope) (req : Request) : MailUse :=
  if req.isPeerMail then peerMail else taskMail u S (req.isReading = true)

end Request

lemma serves_handle {req : Request} (hreq : req.isRegistration = false)
    (hx : ∀ y ∈ req.issuer, y = x) (h : Reliable S x rely) :
    Serves rely S (req.mailUse u S) x (handle u req) := by
  cases req with
  | register payload => cases hreq
  | unregister workspace => cases hreq
  | setStatus workspace status =>
    exact .attempt fun _ _ => .act trivial fun _ _ => .ret _
  | recordMcpToolActivity workspace payload =>
    obtain rfl := hx workspace rfl
    exact serves_handleRecordMcpToolActivity payload
  | sendMessage workspace payload =>
    exact serves_handleSendMessage workspace (fun _ hmsg => hmsg) payload
  | broadcast workspace payload =>
    exact serves_handleBroadcast workspace (fun _ hmsg => hmsg) payload
  | readMessages workspace payload =>
    obtain rfl := hx workspace rfl
    exact serves_handleReadMessages h rfl payload
  | startTask workspace payload =>
    obtain rfl := hx workspace rfl
    exact serves_handleStartTask h payload
  | createTask workspace payload =>
    obtain rfl := hx workspace rfl
    exact serves_handleCreateTask h payload
  | getTask id => exact serves_handleGetTask id
  | listTasks payload => exact .act trivial fun _ _ => .ret _
  | updateTask workspace payload =>
    obtain rfl := hx workspace rfl
    exact serves_handleUpdateTask h payload
  | cancelTask workspace payload =>
    obtain rfl := hx workspace rfl
    exact serves_handleCancelTask h notifies_taskMail payload
  | removeTask workspace payload =>
    obtain rfl := hx workspace rfl
    exact serves_handleRemoveTask h payload
  | interveneTask workspace payload =>
    obtain rfl := hx workspace rfl
    exact serves_handleInterveneTask h payload

/-- Every request stays within its footprint. -/
theorem behaves_handle {req : Request} (hreq : req.isRegistration = false)
    (hx : ∀ y ∈ req.issuer, y = x) (h : Trusted S x rely) :
    Behaves rely S (req.mailUse u S) x (handle u req) :=
  (serves_handle hreq hx h.reliable).behaves

/-! ## Background passes -/

lemma behaves_processWake (wake : PendingWake) (h : Trusted S wake.workspace rely) :
    Behaves rely S (taskMail u S reads) x (processWake u wake) := by
  have hrefill : Behaves rely S (taskMail u S reads) x (refillBeforeWake u wake) := by
    refine .act trivial fun pending _ => ?_
    split
    · refine .act trivial fun _ _ => ?_
      refine .bind (serves_refillRunnableTaskMessages h.reliable _).behaves fun _ _ => ?_
      exact .call (c := Cmd.unlockWakes) trivial fun _ _ => trivial
    · exact .ret trivial
  refine .bind hrefill fun _ _ => .act trivial fun pending _ => ?_
  split
  · exact .act trivial fun _ _ => .ret trivial
  · refine .act trivial fun live _ => ?_
    split
    · refine .act trivial fun idle _ => ?_
      split
      · exact .act trivial fun _ _ => .act trivial fun _ _ => .ret trivial
      · exact .act trivial fun _ _ => .ret trivial
    · refine .act trivial fun ensured _ => ?_
      split
      · exact .act trivial fun _ _ => .ret trivial
      · exact .act trivial fun _ _ => .ret trivial

/-- A wake pass. -/
theorem behaves_process (h : ∀ y, Trusted S y rely) :
    Behaves rely S (taskMail u S False) x (process u) := by
  refine .act trivial fun ready _ => .mapM fun wake _ => ?_
  exact .bind (behaves_processWake wake (h wake.workspace)) fun _ _ => .ret trivial

lemma serves_nudgePass
    (h : ∀ now threshold tasks, rely (.listSilentInProgress now threshold) tasks →
      ∀ task ∈ tasks, S.tasks task) : Serves rely S (taskMail u S False) x (nudgePass u) := by
  refine .act trivial fun now _ => .act trivial fun tasks htasks => ?_
  refine .bind (.mapM fun task hmem => ?_) fun _ => .ret _
  have htask := h _ _ tasks htasks task hmem
  unfold nudgeIfIdle
  split
  · exact .ret _
  · refine .act trivial fun live _ => ?_
    split
    · refine .act trivial fun idle _ => ?_
      split
      · refine .act trivial fun pending _ => ?_
        split
        · exact .ret _
        · refine .act trivial fun stamp _ => .act ?_ fun _ _ => ?_
          · exact ⟨stamp, _, _, _, _, rfl, .reminder htask _⟩
          · exact .act ⟨task, htask, rfl, rfl⟩ fun _ _ => .call trivial
      · exact .ret _
    · exact .ret _

/-- The nudges of a reconcile pass, for silent tasks within the scope. -/
theorem behaves_nudgePass
    (h : ∀ now threshold tasks, rely (.listSilentInProgress now threshold) tasks →
      ∀ task ∈ tasks, S.tasks task) : Behaves rely S (taskMail u S False) x (nudgePass u) :=
  (serves_nudgePass h).behaves

end Ax.Daemon
