import Ax.Daemon.Threads
import Ax.Daemon.StoreCommands

/-!
# Tasks and their parties

The assignee of a task, its creator and the operator are its parties.  Whatever
requests the other workspaces make, in whatever interleaving, the task keeps what
it is about and how far it got; all that others can do is to give it children,
whose progress the store sums up in it.

Main results:

- Theorem `task_integrity`: no run of their requests changes more.
-/

namespace Ax.Daemon

open TaskStore

/-! ## Intact records -/

def RollupLine (t : Task) (line : TaskLog) : Prop :=
  line.workspace = t.assignee ∧
    ∃ parent all rollup, summarizeTaskRollup parent all = some rollup ∧
      line.message = rollup.summary

/-- The later record `t'` differs from `t` in the children, the summary with its log
lines, the version and the stamp at most. -/
structure Intact (t t' : Task) : Prop where
  frame : t' =
    { t with
      childTaskIds := t'.childTaskIds
      rollup := t'.rollup
      logs := t'.logs
      version := t'.version
      updatedAt := t'.updatedAt }
  logs : ∃ lines, t'.logs = t.logs ++ lines ∧ ∀ line ∈ lines, RollupLine t line

namespace Intact

variable {t t' : Task}

lemma refl (t : Task) : Intact t t :=
  ⟨rfl, [], (List.append_nil _).symm, by simp⟩

lemma party_iff (h : Intact t t') (x : String) : Party t' x ↔ Party t x := by
  rw [h.frame]
  exact Iff.rfl

lemma id_eq (h : Intact t t') : t'.id = t.id := by
  rw [h.frame]

lemma refresh (h : Intact t t') (all : TaskMap) (now : Timestamp) :
    Intact t (refreshRollup all t' now) := by
  have hlines : (refreshRollup all t' now).logs = t'.logs ∨
      ∃ line, RollupLine t line ∧ (refreshRollup all t' now).logs = t'.logs ++ [line] := by
    have hassignee : t'.assignee = t.assignee := by rw [h.frame]
    unfold refreshRollup writeRollup
    cases hrollup : summarizeTaskRollup t' all with
    | none =>
      dsimp only
      split
      · exact Or.inl rfl
      · exact Or.inl rfl
    | some rollup =>
      by_cases hlog : rollup.summary ≠ "" ∧
          shouldAppendRollupLog { t' with rollup := some rollup } rollup.summary = true
      · simp only [if_pos hlog, if_true]
        exact Or.inr ⟨_, ⟨hassignee, t', all, rollup, hrollup, rfl⟩, rfl⟩
      · simp only [if_neg hlog]
        split
        · exact Or.inl rfl
        · exact Or.inl rfl
  refine ⟨?_, ?_⟩
  · rw [refreshRollup_frame, h.frame]
  · obtain ⟨lines, hlogs, hrollups⟩ := h.logs
    rcases hlines with hsame | ⟨line, hline, happended⟩
    · exact ⟨lines, hsame.trans hlogs, hrollups⟩
    · refine ⟨lines ++ [line], ?_, ?_⟩
      · rw [happended, hlogs, List.append_assoc]
      · intro x hx
        rcases List.mem_append.mp hx with hold | hnew
        · exact hrollups x hold
        · rw [List.mem_singleton.mp hnew]
          exact hline

lemma adopt (h : Intact t t') (now : Timestamp) (childId : String) :
    Intact t (adoptChild now t' childId) := by
  unfold adoptChild
  split
  · exact h
  · exact ⟨by rw [h.frame]; rfl, h.logs⟩

end Intact

/-! ## Calls of others -/

namespace StoreCall

/-- A call that is not made in the name of a party of `t`. -/
def Foreign (t : Task) (c : StoreCall) : Prop :=
  match c.op with
  | .create .. => True
  | .updateWithConfirm _ a => ¬Party t a.workspace
  | .cancel _ _ workspace _ | .remove _ _ workspace _ | .retry _ _ workspace _
  | .markToolActivity _ workspace _ => ¬Party t workspace
  | .recordDispatch id _ _ => id ≠ t.id
  | .recoverStaleInProgress _ => False

variable {t : Task} {c : StoreCall}

lemma Foreign.not_touch (hc : c.Foreign t) {x x' : Task} (hx : Intact t x) : ¬Touch c x x' := by
  intro htouch
  unfold Foreign at hc
  cases htouch with
  | updated hop hvalid =>
    rw [hop] at hc
    exact hc ((hx.party_iff _).mp (party_of_update hvalid))
  | cancelled hop hvalid =>
    rw [hop] at hc
    exact hc ((hx.party_iff _).mp (party_of_control hvalid))
  | removed hop hvalid =>
    rw [hop] at hc
    exact hc ((hx.party_iff _).mp (party_of_control hvalid))
  | retried hop hvalid =>
    rw [hop] at hc
    exact hc ((hx.party_iff _).mp (party_of_control hvalid))
  | recovered hop =>
    rw [hop] at hc
    exact hc
  | dispatched hop =>
    rw [hop] at hc
    exact hc hx.id_eq
  | active hop _ _ hassignee =>
    rw [hop] at hc
    exact hc ((hx.party_iff _).mp (Or.inl hassignee.symm))

lemma Foreign.intact (hc : c.Foreign t) {s s' : TaskStore} (hstep : StoreStep s c s')
    {x : Task} (hget : s.inner.get t.id = some x) (hx : Intact t x) :
    ∃ x', s'.inner.get t.id = some x' ∧ Intact t x' := by
  have hrelation : CallRelation c fun x x' => Intact t x → Intact t x' :=
    { refl := fun _ => id
      trans := fun _ _ _ h₁ h₂ => h₂ ∘ h₁
      touch := fun htouch hx => absurd htouch (hc.not_touch hx)
      refresh := fun all _ now _ hx => hx.refresh all now
      adopt := fun now _ childId _ hx => hx.adopt now childId }
  obtain ⟨x', hget', hkept⟩ := hrelation.storeStep hstep t.id x hget
  exact ⟨x', hget', hkept hx⟩

end StoreCall

/-! ## Requests of others -/

/-- The command makes no call in the name of a party of `t`. -/
def Cmd.Foreign (u : Unicode) (t : Task) (c : Cmd) : Prop :=
  ∀ r, ∀ call ∈ c.storeCall u r, call.Foreign t

/-- The jobs that are not done in the name of a party of `t`: requests of other
workspaces, and the ends of connections. -/
def Job.Foreign (t : Task) : Job → Prop
  | .request req => ∀ x ∈ req.issuer, ¬Party t x
  | .disconnect .. | .elsewhere _ => True
  | .wakePass | .recoverPass | .nudgePass => False

/-- What requests of others may act on: any task but `t`. -/
def otherTasks (t : Task) : Scope where
  tasks task := task.id ≠ t.id
  ids _ := True

/-- Answers that give others no hold of `t`. -/
def Withheld (t : Task) (c : Cmd) (answer : c.Result) : Prop :=
  c.Posted answer ∧ ∀ x ∈ c.asksFor, ¬Party t x → ∀ task ∈ c.tasks answer, task.id ≠ t.id

variable {u : Unicode} {t : Task}

lemma trusted_withheld {x : String} (hx : ¬Party t x) :
    Trusted (otherTasks t) x (Withheld t) where
  enqueued _ _ h := h.1
  asked _ _ hasks h := h.2 x hasks hx
  refused _ _ _ _ _ _ := trivial

lemma Cmd.Permitted.foreign {mail : MailUse} {x : String} (hx : ¬Party t x) {c : Cmd}
    (h : c.Permitted (otherTasks t) mail x) : c.Foreign u t := by
  intro r call hcall
  cases c with
  | createTask input =>
    obtain rfl := Option.some.inj hcall
    trivial
  | updateTask id a =>
    obtain rfl := Option.some.inj hcall
    have hworkspace : a.workspace = x := h
    show ¬Party t a.workspace
    rwa [hworkspace]
  | cancelTask id reason workspace expected =>
    obtain rfl := Option.some.inj hcall
    exact h ▸ hx
  | removeTask id reason workspace expected =>
    obtain rfl := Option.some.inj hcall
    exact h ▸ hx
  | retryTask id note workspace expected =>
    obtain rfl := Option.some.inj hcall
    exact h ▸ hx
  | markToolActivity id workspace stamp =>
    obtain rfl := Option.some.inj hcall
    exact h ▸ hx
  | recordDispatch id recipient stamp =>
    obtain rfl := Option.some.inj hcall
    obtain ⟨task, htask, rfl, _⟩ := h
    exact htask
  | recoverStaleInProgress => exact h.elim
  | _ => cases hcall

lemma Cmd.foreign_of_none {c : Cmd} (h : ∀ r, c.storeCall u r = none) : c.Foreign u t := by
  intro r call hcall
  rw [h r] at hcall
  cases hcall

lemma foreign_handle {req : Request} (hreq : ∀ x ∈ req.issuer, ¬Party t x) :
    (handle u req).Honours (Withheld t) (Cmd.Foreign u t) fun _ => True := by
  have hbehaves : ∀ x, req.issuer = some x → req.isRegistration = false →
      (handle u req).Honours (Withheld t) (Cmd.Foreign u t) fun _ => True := by
    intro x hx hregistration
    have hparty : ¬Party t x := hreq x hx
    have hsame : ∀ y ∈ req.issuer, y = x := fun y hy => Option.some.inj (hy.symm.trans hx)
    exact (behaves_handle hregistration hsame (trusted_withheld hparty)).mono
      (fun _ hc => hc.foreign hparty) fun _ _ => trivial
  cases req with
  | register payload => exact .act (Cmd.foreign_of_none fun _ => rfl) fun _ _ => .ret trivial
  | unregister workspace =>
    simp only [handle, handleUnregister]
    split
    · exact .act (Cmd.foreign_of_none fun _ => rfl) fun _ _ => .ret trivial
    · exact .ret trivial
  | getTask id =>
    refine .act (Cmd.foreign_of_none fun _ => rfl) fun found _ => ?_
    split
    · exact .ret trivial
    · exact .ret trivial
  | listTasks payload => exact .act (Cmd.foreign_of_none fun _ => rfl) fun _ _ => .ret trivial
  | _ => exact hbehaves _ rfl rfl

lemma Job.foreign_honours {job : Job} (h : job.Foreign t) :
    (job.program u).Honours (Withheld t) (Cmd.Foreign u t) fun _ => True := by
  cases job with
  | request req => exact .bind (foreign_handle h) fun _ _ => .ret trivial
  | disconnect workspace id =>
    simp only [Job.program, handleDisconnect]
    exact .act (Cmd.foreign_of_none fun _ => rfl) fun _ _ => .ret trivial
  | elsewhere workspace =>
    refine Prog.Honours.act (c := .now) (Cmd.foreign_of_none fun _ => rfl) fun stamp _ => ?_
    exact Prog.Honours.call (c := .touch workspace stamp) (Cmd.foreign_of_none fun _ => rfl)
      fun _ _ => trivial
  | wakePass => exact h.elim
  | recoverPass => exact h.elim
  | nudgePass => exact h.elim

/-! ## Runs -/

namespace Threads

def FreshTurn (u : Unicode) (p : Threads) (a : Turn Reading) : Prop :=
  ∀ c, p.command a.thread = some c → c.Fresh u a.reading p.shared.ctx

instance (u : Unicode) (p : Threads) (a : Turn Reading) : Decidable (p.FreshTurn u a) :=
  decidable_of_iff ((p.command a.thread).all fun c => (c.storeCall u a.reading).all fun call =>
      decide (call.Fresh p.shared.ctx.taskStore)) <| by
    simp only [FreshTurn, Cmd.Fresh, Option.all_eq_true, decide_eq_true_eq, Option.mem_def]

/-- The task `t` is stored and intact. -/
def KeepsTask (t : Task) (s : Shared) : Prop :=
  ∃ t', s.ctx.taskStore.inner.get t.id = some t' ∧ Intact t t'

end Threads

lemma withheld_exec {r : Reading} {d : HandlerCtx} {c : Cmd} (hfresh : c.Fresh u r d)
    {t' : Task} (hget : d.taskStore.inner.get t.id = some t') (ht' : Intact t t') :
    Withheld t c (c.exec u r d).1 := by
  refine ⟨posted_exec u r d c, fun x hx hparty task htask hid => ?_⟩
  rcases party_of_mem_tasks hx htask with ⟨input, rfl, huuid⟩ | ⟨before, hbefore, hmember⟩
  · have hnone : d.taskStore.inner.get r.uuid = none := (hfresh _ rfl).1
    rw [← huuid, hid, hget] at hnone
    cases hnone
  · rw [hid, hget] at hbefore
    obtain rfl := Option.some.inj hbefore
    exact hparty ((ht'.party_iff x).mp hmember)

lemma keepsTask_exec {r : Reading} {s : Shared} {c : Cmd} {out : c.Result × Shared}
    (hfresh : c.Fresh u r s.ctx) (hc : c.Foreign u t) (hout : s.exec u r c = some out)
    (h : Threads.KeepsTask t s) : Withheld t c out.1 ∧ Threads.KeepsTask t out.2 := by
  obtain ⟨t', hget, ht'⟩ := h
  obtain ⟨hanswer, hctx⟩ := Shared.exec_eq_some hout
  refine ⟨hanswer ▸ withheld_exec hfresh hget ht', ?_⟩
  unfold Threads.KeepsTask
  rw [hctx]
  rcases storeStep_exec hfresh with hsame | ⟨call, hcall, hstep⟩
  · rw [hsame]
    exact ⟨t', hget, ht'⟩
  · exact (hc r call hcall).intact hstep hget ht'

/-- Task integrity.  However many requests of whatever kind are under way, and in
whatever interleaving they run: if none of them is made in the name of the assignee of a
task, its creator or the operator, then the task keeps every field but its children, its
summary with the log lines about it, its version and its stamp. -/
theorem task_integrity {d : HandlerCtx} (hget : d.taskStore.inner.get t.id = some t)
    {jobs : List Job} (hjobs : ∀ job ∈ jobs, job.Foreign t) {turns : List (Turn Reading)}
    {q : Threads} (hrun : Exec (Threads.Step u) (Threads.start u jobs d) turns q)
    (hfresh : Exec.EachStep (Threads.Step u) (Threads.FreshTurn u) (Threads.start u jobs d) turns) :
    ∃ t', q.shared.ctx.taskStore.inner.get t.id = some t' ∧ Intact t t' := by
  have hhonouring : (Threads.start u jobs d).Honouring (Withheld t) fun _ => Cmd.Foreign u t := by
    intro i p hp
    obtain ⟨job, hjob, rfl⟩ := List.mem_map.mp (List.mem_of_getElem? hp)
    exact Job.foreign_honours (hjobs job hjob)
  have hstates := Pool.eachState_of_honouring (P := Threads.KeepsTask t)
    (fun p a c out hturn hkeeps hcommand hc hout =>
      keepsTask_exec (hturn c hcommand) hc hout hkeeps)
    hhonouring ⟨t, hget, Intact.refl t⟩ hfresh
  exact (hstates turns [] q (List.append_nil turns).symm hrun).2

/-! ## A run -/

/-- A task of `ann` for `bob`. -/
def bobsTask : Task :=
  newTask 0 "t" (plainInput "bob" "ann" "")

def bobsCtx : HandlerCtx :=
  { newCtx with taskStore := ⟨none, KeyedMap.empty.put bobsTask, .absent⟩ }

/-- `cat` tries to cancel the task, and gives it a child. -/
def catsRequests : List Job :=
  [.request (.cancelTask "cat" ⟨"t", "", none⟩),
    .request (.createTask "cat" ⟨"", "", "cat", "t", "", "", "", 0⟩)]

lemma catsRequests_isSome :
    (runSteps (Pool.next (Shared.exec .ascii)) (Threads.start .ascii catsRequests bobsCtx)
      (turns 0 1 ++ turns 1 3)).isSome = true := by
  decide

/-- The task has a child now, and is otherwise as `ann` and `bob` left it. -/
theorem cat_leaves_task_intact :
    ∃ t', (((runSteps (Pool.next (Shared.exec .ascii))
          (Threads.start .ascii catsRequests bobsCtx) (turns 0 1 ++ turns 1 3)).get
        catsRequests_isSome).shared.ctx.taskStore.inner.get "t" = some t' ∧
      t'.childTaskIds = [calmReading.uuid] ∧ Intact bobsTask t') := by
  have hforeign : ∀ job ∈ catsRequests, job.Foreign bobsTask := by
    intro job hjob
    rcases List.mem_pair.mp hjob with rfl | rfl
    · exact fun x hx => Option.some.inj hx ▸ by decide
    · exact fun x hx => Option.some.inj hx ▸ by decide
  obtain ⟨t', hget, hintact⟩ := task_integrity (u := .ascii) (t := bobsTask) (d := bobsCtx)
    (by decide) hforeign
    (Threads.exec_of_runs (Option.some_get catsRequests_isSome).symm)
    (eachStep_of_checkSteps (fun _ _ _ h => h) (fun _ _ => of_decide_eq_true) (by decide))
  have hchildren : (((runSteps (Pool.next (Shared.exec .ascii))
      (Threads.start .ascii catsRequests bobsCtx) (turns 0 1 ++ turns 1 3)).get
        catsRequests_isSome).shared.ctx.taskStore.inner.get "t").map Task.childTaskIds =
          some [calmReading.uuid] := by
    decide
  have hid : bobsTask.id = "t" := rfl
  rw [hid] at hget
  rw [hget] at hchildren
  exact ⟨t', hget, Option.some.inj hchildren, hintact⟩

end Ax.Daemon
