import Ax.Daemon.Balance
import Ax.Daemon.Footprint

/-!
# Interleaved jobs

The requests and the passes of the daemon run on threads of their own and take
turns, one critical section at a time.  Only the refill of a wake pass holds the
scheduler's lock over several critical sections of other data; until it ends,
nobody else can use the scheduler.

A wake is dropped in three places, each a test and then a cancellation: after a
reading and after a purge if the inbox is empty, and by a wake pass if the inbox
is empty or no session can be had.

Main results:

- Theorem `Job.cautious_of_client`: every job but the wake pass issues critical commands,
  whichever they are, only right after a test that justified them.
- Theorem `Job.cautious`: every job cancels a wake only right after a test that justified it.
-/

namespace Ax.Daemon

/-! ## The scheduler's lock -/

structure Shared where
  ctx : HandlerCtx
  wakesLocked : Bool

def Cmd.takesWakesLock : Cmd → Bool
  | .schedule .. | .cancelWake _ | .wakeState _ | .readyWakes | .lockWakes | .ensureSession ..
  | .advanceAttempt .. | .postpone _ => true
  | _ => false

def Cmd.keepsWakesLocked (locked : Bool) : Cmd → Bool
  | .lockWakes => true
  | .unlockWakes => false
  | _ => locked

def Shared.exec (u : Unicode) (r : Reading) (s : Shared) (c : Cmd) :
    Option (c.Result × Shared) :=
  if s.wakesLocked && c.takesWakesLock then none
  else
    let out := c.exec u r s.ctx
    some (out.1, ⟨out.2, c.keepsWakesLocked s.wakesLocked⟩)

lemma Shared.exec_eq_some {u : Unicode} {r : Reading} {s : Shared} {c : Cmd}
    {out : c.Result × Shared} (h : s.exec u r c = some out) :
    out.1 = (c.exec u r s.ctx).1 ∧ out.2.ctx = (c.exec u r s.ctx).2 := by
  unfold Shared.exec at h
  split at h
  · cases h
  · cases h
    exact ⟨rfl, rfl⟩

/-- Jobs under way. -/
abbrev Threads : Type :=
  Pool Cmd.Result Shared

namespace Threads

def start (u : Unicode) (jobs : List Job) (d : HandlerCtx) : Threads where
  threads := jobs.map (Job.program u)
  shared := ⟨d, false⟩

abbrev Step (u : Unicode) : Threads → Turn Reading → Threads → Prop :=
  Pool.Step (Shared.exec u)

lemma exec_of_runs {u : Unicode} {p q : Threads} {turns : List (Turn Reading)}
    (h : runSteps (Pool.next (Shared.exec u)) p turns = some q) : Exec (Step u) p turns q :=
  exec_of_runSteps (fun _ _ _ hstep => hstep) h

lemma exec_of_step {u : Unicode} {p q : Threads} {a : Turn Reading} (h : Step u p a q) :
    ∃ c, p.command a.thread = some c ∧
      q.shared.ctx = (c.exec u a.reading p.shared.ctx).2 := by
  obtain ⟨c, k, out, hthread, hout, rfl⟩ := Pool.step_iff.mp h
  exact ⟨c, Pool.command_eq_some_iff.mpr ⟨k, hthread⟩, (Shared.exec_eq_some hout).2⟩

def unread (p : Threads) (w : String) : List Message :=
  p.shared.ctx.queue.inbox w

def wakePending (p : Threads) (w : String) : Bool :=
  p.shared.ctx.wakeScheduler.isPending w

end Threads

def turns (thread count : Nat) : List (Turn Reading) :=
  List.replicate count ⟨thread, calmReading⟩

/-! ## Cautious programs -/

namespace Cmd

/-- The command drops the wake of `w`. -/
def Cancels (w : String) : Cmd → Prop
  | .cancelWake workspace => workspace = w
  | _ => False

/-- The result is a reason to drop the wake of `w`: its inbox is empty, or no
session can be had. -/
def JustifiesCancel (w : String) : (c : Cmd) → c.Result → Prop
  | .pendingCount workspace, pending => workspace = w ∧ pending = 0
  | .ensureSession workspace _, ensured => workspace = w ∧ ensured = false
  | _, _ => False

lemma DeliversTo.not_cancels {x w : String} {c : Cmd} (h : c.DeliversTo x) : ¬c.Cancels w := by
  cases c <;> first
    | exact h.elim
    | exact not_false

end Cmd

variable {u : Unicode} {α : Type} {w : String}

/-- The program drops the wake of `w` only right after a test that justified it. -/
abbrev Cautious (w : String) (p : Program α) : Prop :=
  Guarded (Cmd.Cancels w) (Cmd.JustifiesCancel w) False p

structure Respected (critical : Cmd → Prop) (justifies : (c : Cmd) → c.Result → Prop) :
    Prop where
  delivery : ∀ {x : String} {c : Cmd}, c.DeliversTo x → ¬critical c
  dequeue : ∀ workspace limit sender, ¬critical (.dequeue workspace limit sender)
  drained : ∀ workspace pending, critical (.cancelWake workspace) → pending = 0 →
    justifies (.pendingCount workspace) pending

lemma respected_cancels : Respected (Cmd.Cancels w) (Cmd.JustifiesCancel w) where
  delivery hc := hc.not_cancels
  dequeue _ _ _ := not_false
  drained _ _ hw hzero := ⟨hw, hzero⟩

def Job.isWakePass : Job → Bool
  | .wakePass => true
  | _ => false

section Clients

variable {critical : Cmd → Prop} {justifies : (c : Cmd) → c.Result → Prop}

variable (h : Respected critical justifies)

include h

lemma cautious_of_quiet {p : Program α} (hp : p.Uses Cmd.Quiet) :
    Guarded critical justifies False p :=
  .of_uses (hp.mono fun _ hc => h.delivery (x := "") hc.deliversTo)

/-- A critical command of a client drops a wake, and was justified. -/
theorem Respected.justified {S : Scope} {mail : MailUse} {x : String} {drained : Option String}
    {c : Cmd} (hc : c.Serving S mail x drained) (hcritical : critical c) :
    ∃ workspace, drained = some workspace ∧ critical (.cancelWake workspace) := by
  cases c with
  | cancelWake workspace => exact ⟨workspace, hc, hcritical⟩
  | advanceAttempt workspace result => exact hc.elim
  | postpone workspace => exact hc.elim
  | dequeue workspace limit sender => exact absurd hcritical (h.dequeue _ _ _)
  | enqueue msg => exact absurd hcritical (h.delivery (x := msg.recipient) rfl)
  | removeTaskMessages workspace id => exact absurd hcritical (h.delivery (x := workspace) rfl)
  | schedule workspace sender => exact absurd hcritical (h.delivery (x := workspace) rfl)
  | _ => exact absurd hcritical (h.delivery (x := "") trivial)

lemma Respected.guarded {S : Scope} {mail : MailUse} {x : String} {drained : Option String}
    {p : Program α} {ok : Prop}
    (hp : (clientProtocol (fun _ _ => True) S mail x).Follows (fun _ _ => True) drained p)
    (hok : ∀ workspace, drained = some workspace → critical (.cancelWake workspace) → ok) :
    Guarded critical justifies ok p := by
  induction hp generalizing ok with
  | done _ => exact .done _
  | @step drained c k hc _ ih =>
    refine .step (fun hcritical => ?_) fun answer => ih answer trivial fun workspace hdrained => ?_
    · obtain ⟨workspace, hdrained, hcancel⟩ := h.justified hc hcritical
      exact hok workspace hdrained hcancel
    · cases c with
      | pendingCount asked =>
        obtain ⟨hzero, hsame⟩ := Option.ite_none_right_eq_some.mp hdrained
        obtain rfl := Option.some.inj hsame
        exact fun hcancel => h.drained asked answer hcancel hzero
      | _ => cases hdrained

/-- Programs of clients are cautious. -/
theorem cautious_of_serves {mail : MailUse} {x : String} {p : Program α}
    (hp : Serves (fun _ _ => True) allTasks mail x p) : Guarded critical justifies False p :=
  h.guarded (hp.follows none) nofun

lemma cautious_handle (req : Request) : Guarded critical justifies False (handle u req) := by
  have hserves : req.isRegistration = false → Guarded critical justifies False (handle u req) := by
    intro hreq
    have hissuer : ∀ y ∈ req.issuer, y = req.issuer.getD "" := by
      intro y hy
      rw [hy]
      rfl
    exact cautious_of_serves h (serves_handle hreq hissuer (reliable_allTasks _))
  cases req with
  | register payload => exact cautious_of_quiet h (.bind (.call rfl) fun _ => .ret _)
  | unregister workspace => exact cautious_of_quiet h (quiet_handleUnregister workspace)
  | _ => exact hserves rfl

/-- Every job but the wake pass is cautious. -/
theorem Job.cautious_of_client {job : Job} (hjob : job.isWakePass = false) :
    Guarded critical justifies False (job.program u) := by
  cases job with
  | request req => exact .bind (cautious_handle h req) fun _ => .ret _
  | disconnect workspace id => exact cautious_of_quiet h (.bind (.call rfl) fun _ => .ret _)
  | elsewhere workspace => exact cautious_of_quiet h (quiet_touchNow workspace)
  | wakePass => cases hjob
  | recoverPass => exact cautious_of_quiet h quiet_recoverPass
  | nudgePass => exact cautious_of_serves h (serves_nudgePass (x := "") fun _ _ _ _ _ _ => trivial)

end Clients

lemma cautious_processWake (wake : PendingWake) : Cautious w (processWake u wake) := by
  have hrefill : Serves (fun _ _ => True) allTasks (taskMail u allTasks False) ""
      (refillRunnableTaskMessages u wake.workspace wake.sender) :=
    serves_refillRunnableTaskMessages (reliable_allTasks _) _
  refine .bind ?_ fun _ => .check False.elim fun pending => ?_
  · refine .bind (.call False.elim) fun pending => ?_
    split
    · refine .bind (.call False.elim) fun _ => ?_
      exact .bind (cautious_of_serves respected_cancels hrefill) fun _ => .call False.elim
    · exact .ret _
  · split
    · rename_i hzero
      exact .bind (.call fun hw => ⟨hw, hzero⟩) fun _ => .ret _
    · refine .bind (.call False.elim) fun live => ?_
      split
      · refine .bind (.call False.elim) fun idle => ?_
        split
        · refine .bind (.call False.elim) fun _ => ?_
          exact .bind (.call False.elim) fun _ => .ret _
        · exact .bind (.call False.elim) fun _ => .ret _
      · refine .check False.elim fun ensured => ?_
        split
        · exact .bind (.call False.elim) fun _ => .ret _
        · rename_i hrefused
          exact .bind (.call fun hw => ⟨hw, Bool.eq_false_iff.mpr hrefused⟩) fun _ => .ret _

lemma cautious_process : Cautious w (process u) := by
  refine .bind (.call False.elim) fun ready => .mapM fun wake _ => ?_
  exact .bind (cautious_processWake wake) fun _ => .ret _

/-- Every job drops a wake only right after a test that justified it. -/
theorem Job.cautious (job : Job) : Cautious w (job.program u) := by
  by_cases hjob : job.isWakePass
  · cases job with
    | wakePass => exact .bind cautious_process fun _ => .ret _
    | _ => cases hjob
  · exact Job.cautious_of_client respected_cancels (Bool.eq_false_iff.mpr hjob)

end Ax.Daemon
