import Ax.Daemon.Threads
import Ax.Daemon.UnreadMail

/-!
# Lost wakes

A sender appends its message and then schedules the wake of the recipient.
Readers, purges and wake passes drop a wake only after a test that justified it,
but the test and the cancellation are two critical sections.  If the sender's
two come between them, the cancellation drops the new wake, and the message is
left without one.

Main results:

- Theorem `wake_kept_iff`: the wake of an unread message survives exactly if
  nobody was about to drop it when it was scheduled.
-/

namespace Ax.Daemon

/-! ## What turns do to a wake -/

namespace Cmd

/-- The command schedules the wake of `w`. -/
def schedules (w : String) : Cmd → Bool
  | .schedule workspace _ => decide (workspace = w)
  | _ => false

/-- The command counts an attempt for the pending wake of `w`, or it is refused a
session for `w`. -/
def attempts (w : String) (r : Reading) (d : HandlerCtx) : Cmd → Bool
  | .advanceAttempt workspace _ => decide (workspace = w) && d.wakeScheduler.isPending w
  | .ensureSession workspace _ => decide (workspace = w) && !ensurePendingWakeTarget d r w
  | _ => false

end Cmd

namespace Threads

/-- The turn schedules the wake of `w`. -/
def Schedules (w : String) (p : Threads) (a : Turn Reading) : Prop :=
  (p.command a.thread).any (Cmd.schedules w) = true

/-- In the turn a wake pass counts an attempt for `w`, or is refused a session. -/
def Attempts (w : String) (p : Threads) (a : Turn Reading) : Prop :=
  (p.command a.thread).any (Cmd.attempts w a.reading p.shared.ctx) = true

instance (w : String) (p : Threads) (a : Turn Reading) : Decidable (p.Schedules w a) :=
  inferInstanceAs (Decidable (_ = true))

/-- The thread has seen a reason to drop the wake of `w` and is about to do so. -/
def AboutToCancel (w : String) (p : Threads) (i : Nat) : Prop :=
  p.command i = some (.cancelWake w)

end Threads

variable {u : Unicode} {w : String}

lemma wakePending_exec {r : Reading} {d : HandlerCtx} {c : Cmd}
    (hschedule : c.schedules w = false) (hcancel : ¬c.Cancels w)
    (hattempt : c.attempts w r d = false) :
    (c.exec u r d).2.wakeScheduler.isPending w = d.wakeScheduler.isPending w := by
  cases c with
  | schedule workspace sender =>
    have hne : w ≠ workspace := fun heq => of_decide_eq_false hschedule heq.symm
    simp [Cmd.exec, hne]
  | cancelWake workspace =>
    have hne : w ≠ workspace := fun heq => hcancel heq.symm
    simp [Cmd.exec, hne]
  | postpone workspace => simp [Cmd.exec]
  | advanceAttempt workspace result =>
    by_cases hw : w = workspace
    · subst hw
      have hidle : d.wakeScheduler.isPending w = false := by
        simpa [Cmd.attempts] using hattempt
      simp [Cmd.exec, WakeMap.advanceAttempt_of_not_isPending _ _ hidle]
    · simp [Cmd.exec, WakeMap.isPending_advanceAttempt_of_ne _ _ _ hw]
  | _ => rfl

lemma not_wakePending_exec {r : Reading} {d : HandlerCtx} {c : Cmd}
    (hschedule : c.schedules w = false) (hidle : d.wakeScheduler.isPending w = false) :
    (c.exec u r d).2.wakeScheduler.isPending w = false := by
  cases c with
  | cancelWake workspace => simp [Cmd.exec, hidle]
  | ensureSession workspace sender => exact hidle
  | _ =>
    rw [wakePending_exec hschedule not_false]
    · exact hidle
    · simp [Cmd.attempts, hidle]

namespace Threads

variable {a : Turn Reading} {p q : Threads}

lemma wakePending_of_step (h : Step u p a q) (hschedule : ¬p.Schedules w a)
    (hcancel : Pool.Uncritical (Cmd.Cancels w) p a) (hattempt : ¬p.Attempts w a) :
    q.wakePending w = p.wakePending w := by
  obtain ⟨c, hc, hctx⟩ := exec_of_step h
  have hschedule' : c.schedules w = false := by simpa [Schedules, hc] using hschedule
  have hattempt' : c.attempts w a.reading p.shared.ctx = false := by
    simpa [Attempts, hc] using hattempt
  unfold wakePending
  rw [hctx]
  exact wakePending_exec hschedule' (hcancel c hc) hattempt'

lemma not_wakePending_of_step (h : Step u p a q) (hidle : p.wakePending w = false)
    (hschedule : ¬p.Schedules w a) : q.wakePending w = false := by
  obtain ⟨c, hc, hctx⟩ := exec_of_step h
  have hschedule' : c.schedules w = false := by simpa [Schedules, hc] using hschedule
  unfold wakePending
  rw [hctx]
  exact not_wakePending_exec hschedule' hidle

lemma not_wakePending_of_cancel (h : Step u p a q) (hcancel : p.AboutToCancel w a.thread) :
    q.wakePending w = false := by
  obtain ⟨c, hc, hctx⟩ := exec_of_step h
  cases hc.symm.trans hcancel
  unfold wakePending
  rw [hctx]
  simp [Cmd.exec]

lemma wakePending_of_schedule (h : Step u p a q) (hschedule : p.Schedules w a) :
    q.wakePending w = true := by
  obtain ⟨c, hc, hctx⟩ := exec_of_step h
  have hschedule' : c.schedules w = true := by simpa [Schedules, hc] using hschedule
  unfold wakePending
  rw [hctx]
  cases c with
  | schedule workspace sender =>
    have hw : workspace = w := of_decide_eq_true hschedule'
    simp [Cmd.exec, hw]
  | _ => cases hschedule'

lemma unjustified_of_unread {msg : Message} (hunread : msg ∈ p.unread w)
    (hattempt : ¬p.Attempts w a) :
    Pool.Unjustified (Shared.exec u) (Cmd.JustifiesCancel w) p a := by
  intro c out hc hout hjustified
  obtain ⟨hresult, _⟩ := Shared.exec_eq_some hout
  cases c with
  | pendingCount workspace =>
    obtain ⟨rfl, hzero⟩ := hjustified
    have hempty := MessageQueue.pendingCount_eq_zero_iff.mp (hresult.symm.trans hzero)
    exact List.ne_nil_of_mem hunread hempty
  | ensureSession workspace sender =>
    obtain ⟨rfl, hrefused⟩ := hjustified
    have htarget : ensurePendingWakeTarget p.shared.ctx a.reading workspace = false := by
      rw [hrefused, Cmd.exec] at hresult
      simpa only [eq_comm] using hresult
    exact hattempt (by simp [Attempts, hc, Cmd.attempts, htarget])
  | _ => exact hjustified

end Threads

/-! ## The last delivery of a run -/

/-- Any jobs, interleaved in any way up to their end, with the last turn that
schedules the wake of `w` and a message for `w` that nobody reads or purges from
then on, such as the one that the same sender appended before. -/
structure LastDelivery (u : Unicode) (w : String) where
  jobs : List Job
  ctx : HandlerCtx
  before : List (Turn Reading)
  turn : Turn Reading
  after : List (Turn Reading)
  scheduling : Threads
  scheduled : Threads
  last : Threads
  msg : Message
  reached : Exec (Threads.Step u) (Threads.start u jobs ctx) before scheduling
  schedules : scheduling.Schedules w turn
  step : Threads.Step u scheduling turn scheduled
  rest : Exec (Threads.Step u) scheduled after last
  lastSchedule :
    Exec.EachStep (Threads.Step u) (fun p a => ¬p.Schedules w a) scheduled after
  unread : Exec.EachState (Threads.Step u) (fun p => msg ∈ p.unread w) scheduled after
  finished : last.Finished

namespace LastDelivery

/-- No wake pass counts an attempt for `w` after the last delivery, and none is
refused a session for `w`. -/
def Unattempted (run : LastDelivery u w) : Prop :=
  Exec.EachStep (Threads.Step u) (fun p a => ¬p.Attempts w a) run.scheduled run.after

variable (run : LastDelivery u w)

lemma not_wakePending {i : Nat} (hi : run.scheduling.AboutToCancel w i) :
    run.last.wakePending w = false := by
  have hne : i ≠ run.turn.thread := by
    rintro rfl
    have hschedules := run.schedules
    rw [Threads.Schedules, hi] at hschedules
    cases hschedules
  have hwaits : run.scheduled.command i = some (.cancelWake w) :=
    (run.step.command_of_ne hne).trans hi
  obtain ⟨pre, a, post, m, m', hafter, hpre, rfl, hm, hstep, hpost⟩ :=
    Pool.issued_of_finished run.rest run.finished hwaits
  have hlast : Exec.EachStep (Threads.Step u) (fun p a => ¬p.Schedules w a) m' post := by
    have hall := run.lastSchedule
    rw [hafter, List.append_cons] at hall
    exact hall.drop (hpre.append (.single hstep))
  refine hpost.invariant_of_eachStep (Q := fun p => Threads.wakePending p w = false) ?_
    (Threads.not_wakePending_of_cancel hstep hm) hlast
  intro p a q hturn hidle hschedule
  exact Threads.not_wakePending_of_step hturn hidle hschedule

lemma guarded_scheduling :
    ∀ t ∈ run.scheduling.threads, Guarded (Cmd.Cancels w) (Cmd.JustifiesCancel w) True t := by
  refine run.reached.invariant (fun hstep hp => hstep.guarded hp) ?_
  intro t ht
  obtain ⟨job, _, rfl⟩ := List.mem_map.mp ht
  exact (Job.cautious job).mono False.elim

lemma cautious_scheduled (hnone : ∀ i, ¬run.scheduling.AboutToCancel w i) :
    ∀ t ∈ run.scheduled.threads, Cautious w t := by
  refine run.step.unpermitted (fun t ht => ?_) fun c out hc _ hjustified => ?_
  · refine (run.guarded_scheduling t ht).of_not_critical ?_
    rintro c k rfl hcancels
    obtain ⟨i, hi⟩ := List.getElem?_of_mem ht
    refine hnone i (Pool.command_eq_some_iff.mpr ?_)
    cases c with
    | cancelWake workspace =>
      obtain rfl : workspace = w := hcancels
      exact ⟨k, hi⟩
    | _ => exact hcancels.elim
  · have hschedules := run.schedules
    rw [Threads.Schedules, hc] at hschedules
    cases c with
    | schedule workspace sender => exact hjustified
    | _ => cases hschedules

lemma wakePending (hattempts : run.Unattempted) (hnone : ∀ i, ¬run.scheduling.AboutToCancel w i) :
    run.last.wakePending w = true := by
  have hunjustified : Exec.EachStep (Threads.Step u)
      (Pool.Unjustified (Shared.exec u) (Cmd.JustifiesCancel w)) run.scheduled run.after :=
    fun pre a post m hafter hpre => Threads.unjustified_of_unread
      (run.unread pre (a :: post) m hafter hpre) (hattempts pre a post m hafter hpre)
  have huncritical := Pool.eachStep_uncritical (run.cautious_scheduled hnone) hunjustified
  have hkept : Exec.EachStep (Threads.Step u) (fun p a => ¬Threads.Schedules w p a ∧
      Pool.Uncritical (Cmd.Cancels w) p a ∧ ¬Threads.Attempts w p a) run.scheduled run.after :=
    fun pre a post m hafter hpre => ⟨run.lastSchedule pre a post m hafter hpre,
      huncritical pre a post m hafter hpre, hattempts pre a post m hafter hpre⟩
  refine run.rest.invariant_of_eachStep (Q := fun p => Threads.wakePending p w = true) ?_
    (Threads.wakePending_of_schedule run.step run.schedules) hkept
  rintro p a q hstep hpending ⟨hschedule, hcancel, hattempt⟩
  rw [Threads.wakePending_of_step hstep hschedule hcancel hattempt]
  exact hpending

end LastDelivery

/-- When interleaved jobs have ended and a message for `w` was left unread since the
last scheduling of a wake for `w`, without an attempt or a refused session after
it, the wake is still pending exactly if, at that scheduling, no thread stood
between its test and its cancellation of the wake. -/
theorem wake_kept_iff (run : LastDelivery u w) (hattempts : run.Unattempted) :
    run.last.wakePending w = true ↔ ∀ i, ¬run.scheduling.AboutToCancel w i := by
  constructor
  · intro hpending i hi
    rw [run.not_wakePending hi] at hpending
    cases hpending
  · exact run.wakePending hattempts

/-! ## Two runs -/

lemma Threads.not_schedules_of_test {p : Threads} {a : Turn Reading}
    (h : (!(p.command a.thread).any (Cmd.schedules w)) = true) : ¬p.Schedules w a := by
  simpa [Threads.Schedules] using h

lemma Threads.not_aboutToCancel_of_test {p : Threads}
    (h : ∀ i < p.threads.length, (p.command i).all (fun c => c.isQuiet || c.schedules w) = true)
    (i : Nat) : ¬p.AboutToCancel w i := by
  intro hi
  obtain ⟨k, hk⟩ := Pool.command_eq_some_iff.mp hi
  have htest := h i (List.getElem?_eq_some_iff.mp hk).1
  rw [hi] at htest
  cases htest

def LastDelivery.ofRuns {jobs : List Job} {ctx : HandlerCtx} {before after : List (Turn Reading)}
    {turn : Turn Reading} {scheduling scheduled last : Threads} (msg : Message)
    (hbefore : runSteps (Pool.next (Shared.exec u)) (Threads.start u jobs ctx) before =
      some scheduling)
    (hturn : Pool.next (Shared.exec u) scheduling turn = some scheduled)
    (hafter : runSteps (Pool.next (Shared.exec u)) scheduled after = some last)
    (hschedules : scheduling.Schedules w turn)
    (hlast : checkSteps (Pool.next (Shared.exec u))
      (fun p a => !(p.command a.thread).any (Cmd.schedules w)) scheduled after = true)
    (hunread : checkStates (Pool.next (Shared.exec u))
      (fun p => decide (msg ∈ Threads.unread p w)) scheduled after = true)
    (hfinished : last.Finished) : LastDelivery u w where
  jobs := jobs
  ctx := ctx
  before := before
  turn := turn
  after := after
  scheduling := scheduling
  scheduled := scheduled
  last := last
  msg := msg
  reached := Threads.exec_of_runs hbefore
  schedules := hschedules
  step := hturn
  rest := Threads.exec_of_runs hafter
  lastSchedule := eachStep_of_checkSteps (fun _ _ _ h => h)
    (fun _ _ => Threads.not_schedules_of_test) hlast
  unread := eachState_of_checkStates (fun _ _ _ h => h) (fun _ h => of_decide_eq_true h) hunread
  finished := hfinished

lemma LastDelivery.unattempted_of_check {run : LastDelivery u w}
    (h : checkSteps (Pool.next (Shared.exec u))
      (fun p a => !(p.command a.thread).any (Cmd.attempts w a.reading p.shared.ctx))
      run.scheduled run.after = true) : run.Unattempted :=
  eachStep_of_checkSteps (fun _ _ _ hstep => hstep)
    (fun p a hcheck => by simpa [Threads.Attempts] using hcheck) h

/-- `bob` reads, if only from one sender, while `ann` writes to `bob`. -/
def readAndSend (sender : String) : List Job :=
  [.request (.readMessages "bob" ⟨0, sender⟩),
    .request (.sendMessage "ann" ⟨"bob", "hello", ""⟩)]

/-- The message of `ann`. -/
def hello : Message where
  id := "msg-00000000-0000-4000-8000-000000000000"
  sender := "ann"
  recipient := "bob"
  content := "hello"
  taskId := ""
  createdAt := 0

def readAndSendRun (sender : String) (before rest : List (Turn Reading)) :
    Option (Threads × Threads × Threads) :=
  runAround (Pool.next (Shared.exec .ascii)) (Threads.start .ascii (readAndSend sender) newCtx)
    before ⟨1, calmReading⟩ rest

lemma readerLater_isSome : (readAndSendRun "cat" (turns 1 5) (turns 0 5)).isSome = true := by
  decide

/-- The run in which `bob` reads later. -/
def readerLater : LastDelivery .ascii "bob" :=
  have hruns := runAround_eq_some (Option.some_get readerLater_isSome).symm
  .ofRuns hello hruns.1 hruns.2.1 hruns.2.2 (by decide) (by decide) (by decide) (by decide)

/-- Nobody is about to drop the wake of the message of `ann`, and it stays. -/
theorem readerLater_keeps_wake : readerLater.last.wakePending "bob" = true := by
  have hcheck : LastDelivery.Unattempted readerLater :=
    LastDelivery.unattempted_of_check (by decide +kernel)
  exact (wake_kept_iff readerLater hcheck).mpr
    (Threads.not_aboutToCancel_of_test (by decide +kernel))

lemma readerBetween_isSome :
    (readAndSendRun "" (turns 0 6 ++ turns 1 5) (turns 0 1)).isSome = true := by
  decide

/-- The run in which `bob` drops the wake after the message of `ann` was scheduled. -/
def readerBetween : LastDelivery .ascii "bob" :=
  have hruns := runAround_eq_some (Option.some_get readerBetween_isSome).symm
  .ofRuns hello hruns.1 hruns.2.1 hruns.2.2 (by decide) (by decide) (by decide) (by decide)

/-- `bob` drops the wake of the message of `ann`: it is unread, both requests have
ended, nobody counted an attempt, and no wake is pending. -/
theorem readerBetween_loses_wake :
    readerBetween.Unattempted ∧ readerBetween.last.wakePending "bob" = false ∧
      hello ∈ readerBetween.last.unread "bob" := by
  exact ⟨LastDelivery.unattempted_of_check (by decide), by decide, by decide⟩

end Ax.Daemon
