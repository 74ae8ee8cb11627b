import Ax.Daemon.LostWake
import Ax.Daemon.QueueLedger
import Ax.Daemon.TaskIntegrity
import Ax.Daemon.TaskStore.AuditTrail
import Ax.Daemon.TaskStore.Forest
import Ax.Daemon.TaskStore.Lifecycle
import Ax.Daemon.TaskStore.Version

/-!
# The daemon refines its stores

A turn of a job makes at most one call of the task store or of the message queue.  Seen
from a store, an interleaving of jobs is a sequence of calls, so what calls keep is kept
by the daemon.

Main results:

- Theorem `interleaving_refines_store`: the calls of the task store, and what they keep.
- Theorem `interleaved_mail_accounted`: where each message is.
-/

namespace Ax.Daemon

def Cmd.queueOp (r : Reading) : Cmd → Option QueueOp
  | .enqueue msg => some (.enqueue r.now r.uuid msg)
  | .dequeue workspace limit sender => some (.dequeue workspace limit sender)
  | .removeTaskMessages workspace taskId => some (.removeTaskMessages workspace taskId)
  | _ => none

lemma exec_queue (u : Unicode) (r : Reading) (d : HandlerCtx) (c : Cmd) :
    (c.exec u r d).2.queue = applyOps u d.queue (c.queueOp r).toList := by
  cases c <;> rfl

namespace Threads

variable {u : Unicode} {p q : Threads} {as : List (Turn Reading)} {α : Type}

/-- The calls of the turns, in order. -/
def calls (u : Unicode) (call : Reading → Cmd → Option α) :
    Threads → List (Turn Reading) → List α
  | _, [] => []
  | p, a :: as => ((p.command a.thread).bind (call a.reading)).toList ++
      (p.next (Shared.exec u) a).elim [] fun q => calls u call q as

lemma calls_cons {a : Turn Reading} (hstep : Step u p a q) (call : Reading → Cmd → Option α) :
    ∃ c, p.command a.thread = some c ∧ q.shared.ctx = (c.exec u a.reading p.shared.ctx).2 ∧
      p.calls u call (a :: as) = (call a.reading c).toList ++ q.calls u call as := by
  obtain ⟨c, hc, hctx⟩ := exec_of_step hstep
  refine ⟨c, hc, hctx, ?_⟩
  rw [calls, hc, show p.next (Shared.exec u) a = some q from hstep]
  rfl

lemma storeRun (hrun : Exec (Step u) p as q)
    (hfresh : Exec.EachStep (Step u) (FreshTurn u) p as) :
    Exec StoreStep p.shared.ctx.taskStore (p.calls u (Cmd.storeCall u) as)
      q.shared.ctx.taskStore := by
  induction hrun with
  | nil => exact .nil _
  | @cons p p' _ a as hstep _ ih =>
    obtain ⟨c, hc, hctx, hcalls⟩ := calls_cons hstep (Cmd.storeCall u)
    rw [hcalls]
    refine Exec.append ?_ (ih (hfresh.tail hstep))
    rw [hctx, exec_taskStore]
    cases hcall : c.storeCall u a.reading with
    | none => exact .nil _
    | some call => exact .single ⟨hfresh.head c hc call hcall, rfl⟩

lemma queue_eq (hrun : Exec (Step u) p as q) :
    q.shared.ctx.queue = applyOps u p.shared.ctx.queue (p.calls u Cmd.queueOp as) := by
  induction hrun with
  | nil => rfl
  | cons hstep _ ih =>
    obtain ⟨c, -, hctx, hcalls⟩ := calls_cons hstep Cmd.queueOp
    rw [ih, hcalls, hctx, exec_queue, applyOps, applyOps, applyOps, List.foldl_append]

end Threads

variable {u : Unicode} {p q : Threads} {as : List (Turn Reading)}

/-- However the jobs interleave, the store goes through the calls of their turns.  A task
stays stored; its record changes with its version only, its end is final, and its log, its
children and its counters only grow.  If the store started empty, its tasks are a forest and
started ones are claimed. -/
theorem interleaving_refines_store (hrun : Exec (Threads.Step u) p as q)
    (hfresh : Exec.EachStep (Threads.Step u) (Threads.FreshTurn u) p as) :
    Exec StoreStep p.shared.ctx.taskStore (p.calls u (Cmd.storeCall u) as)
      q.shared.ctx.taskStore ∧
    (∀ id t, p.shared.ctx.taskStore.inner.get id = some t →
      ∃ t', q.shared.ctx.taskStore.inner.get id = some t' ∧
        SameOrNewer t t' ∧ Settled t t' ∧ AppendOnly t t') ∧
    (p.shared.ctx.taskStore.inner = KeyedMap.empty →
      Forest (links q.shared.ctx.taskStore.inner) ∧
        AllRecords ClaimSound q.shared.ctx.taskStore.inner) := by
  have hstore := Threads.storeRun hrun hfresh
  refine ⟨hstore, fun id t hget => ?_, fun hempty =>
    ⟨forest_of_run hempty hstore, claimSound_of_run hempty hstore⟩⟩
  obtain ⟨t', hget', hversion⟩ := sameOrNewer_recordRelation.storeRun hstore id t hget
  obtain ⟨_, hsettled, hend⟩ := settled_recordRelation.storeRun hstore id t hget
  obtain ⟨_, hgrown, htrail⟩ := appendOnly_recordRelation.storeRun hstore id t hget
  -- The three relations are about one record, the one that is stored now.
  obtain rfl := Option.some.inj (hget'.symm.trans hsettled)
  obtain rfl := Option.some.inj (hget'.symm.trans hgrown)
  exact ⟨t', hget', hversion, hend, htrail⟩

/-- `cat` makes two calls, one of them in vain. -/
theorem cats_calls_refine_store :
    let calls := (Threads.start .ascii catsRequests bobsCtx).calls .ascii (Cmd.storeCall .ascii)
      (turns 0 1 ++ turns 1 3)
    calls.length = 2 ∧ ∃ s, Exec StoreStep bobsCtx.taskStore calls s :=
  ⟨by decide, _, (interleaving_refines_store
    (Threads.exec_of_runs (Option.some_get catsRequests_isSome).symm)
    (eachStep_of_checkSteps (fun _ _ _ h => h) (fun _ _ => of_decide_eq_true) (by decide))).1⟩

/-- However the jobs interleave, a message that one of them enqueued waits, or was returned by
one reading, dropped at the cap or purged with its task. -/
theorem interleaved_mail_accounted (hrun : Exec (Threads.Step u) p as q)
    (hcap : 0 < p.shared.ctx.queue.maxSize) (hempty : ∀ w, p.shared.ctx.queue.inbox w = []) :
    q.shared.ctx.queue = applyOps u p.shared.ctx.queue (p.calls u Cmd.queueOp as) ∧
      Accounts u p.shared.ctx.queue (p.calls u Cmd.queueOp as) :=
  ⟨Threads.queue_eq hrun, accounts hcap hempty _⟩

/-- `ann` and `cat` send, and `bob` reads in between. -/
def readBetween : List Job :=
  readAndSend "" ++ [.request (.sendMessage "cat" ⟨"bob", "again", ""⟩)]

lemma readBetween_isSome :
    (runSteps (Pool.next (Shared.exec .ascii)) (Threads.start .ascii readBetween newCtx)
      (turns 1 5 ++ turns 0 6 ++ turns 2 5)).isSome = true := by
  decide

/-- The message of `ann` was returned, the one of `cat` waits. -/
theorem hello_accounted :
    let ops := (Threads.start .ascii readBetween newCtx).calls .ascii Cmd.queueOp
      (turns 1 5 ++ turns 0 6 ++ turns 2 5)
    (ledger .ascii newCtx.queue.maxSize ops).map (fun e => (e.msg.content, e.place)) =
        [("hello", .returned 1), ("again", .inbox)] ∧
      Accounts .ascii newCtx.queue ops :=
  ⟨by decide, (interleaved_mail_accounted
    (Threads.exec_of_runs (Option.some_get readBetween_isSome).symm) (by decide)
      fun _ => rfl).2⟩

end Ax.Daemon
