import Ax.Foundation.Retries
import Ax.Daemon.LostWake

/-!
# Retries of wakes

The wake loop of the daemon runs one pass after the other.  A pass copies the wakes that
are due and deals with the copies one by one; meanwhile other threads may schedule and
cancel wakes, so that an attempt may be counted for a wake that is newer than the copy.

What the loop does for one workspace follows a protocol with three phases: it rests until
a pass lists the workspace, then the wake is due until the pass has dropped it, counted an
attempt or put it off, and it is put off only after the session was found busy.

Main results:

- Theorem `wake_retries_bounded`: the retries of a wake in any interleaving of the loop
  with other jobs.
-/

namespace Ax.Daemon

variable {u : Unicode} {w : String}

/-! ## One wake -/

local instance : Preorder Timestamp :=
  Int.instLinearOrder.toPartialOrder.toPreorder

def wakePolicy : RetryPolicy Timestamp where
  limit := wakeMaxAttempts
  after k t := t + wakeBackoff k

def PendingWake.retry (wake : PendingWake) : Retry Timestamp where
  attempts := wake.attempts
  nextRetry := wake.nextRetry

def HandlerCtx.retry (d : HandlerCtx) (w : String) : Option (Retry Timestamp) :=
  (d.wakeScheduler.get w).map PendingWake.retry

lemma HandlerCtx.map_attempts_retry (d : HandlerCtx) (w : String) :
    (d.retry w).map Retry.attempts = (d.wakeScheduler.get w).map PendingWake.attempts := by
  unfold HandlerCtx.retry
  rw [Option.map_map]
  rfl

/-- What a command makes of the wake of `w`. -/
def Cmd.onWake (w : String) (now : Timestamp) (entry : Option (Retry Timestamp)) :
    Cmd → Option (Retry Timestamp)
  | .schedule workspace _ => if w = workspace then some ⟨0, now + seconds 5⟩ else entry
  | .cancelWake workspace => if w = workspace then none else entry
  | .postpone workspace =>
    if w = workspace then entry.map fun e => { e with nextRetry := now + wakeCheckInterval }
    else entry
  | .advanceAttempt workspace result =>
    if w = workspace then entry.bind (wakePolicy.count now (WakeMap.wakeFailed result))
    else entry
  | _ => entry

lemma HandlerCtx.retry_exec (r : Reading) (d : HandlerCtx) (c : Cmd) :
    (c.exec u r d).2.retry w = c.onWake w r.now (d.retry w) := by
  cases c with
  | schedule workspace sender =>
    simp only [Cmd.exec, Cmd.onWake, HandlerCtx.retry, WakeMap.get_schedule]
    split <;> rfl
  | cancelWake workspace =>
    simp only [Cmd.exec, Cmd.onWake, HandlerCtx.retry, WakeMap.get_cancel]
    split <;> rfl
  | postpone workspace =>
    simp only [Cmd.exec, Cmd.onWake, HandlerCtx.retry, WakeMap.get_postpone]
    split
    · rename_i hw
      rw [hw, Option.map_map, Option.map_map]
      rfl
    · rfl
  | advanceAttempt workspace result =>
    simp only [Cmd.exec, Cmd.onWake, HandlerCtx.retry, WakeMap.get_advanceAttempt]
    split
    · rename_i hw
      rw [hw]
      cases d.wakeScheduler.get workspace with
      | none => rfl
      | some entry =>
        simp only [Option.bind_some, Option.map_some, RetryPolicy.count, PendingWake.retry,
          wakePolicy]
        by_cases hdrop : WakeMap.wakeFailed result ∨ wakeMaxAttempts ≤ entry.attempts + 1
        · rw [if_pos hdrop, if_neg]
          · rfl
          · rintro ⟨hfailed, hlt⟩
            rcases hdrop with hfailed' | hle
            · rw [hfailed] at hfailed'
              cases hfailed'
            · exact absurd hle (Nat.not_le.mpr hlt)
        · obtain ⟨hfailed, hlt⟩ := not_or.mp hdrop
          rw [if_neg hdrop, if_pos ⟨Bool.eq_false_iff.mpr hfailed, Nat.not_le.mp hlt⟩]
          rfl
    · rfl
  | _ => rfl

namespace Cmd

/-- The command counts an attempt for the pending wake of `w`. -/
def counts (w : String) (d : HandlerCtx) : Cmd → Bool
  | .advanceAttempt workspace _ => decide (workspace = w) && d.wakeScheduler.isPending w
  | _ => false

def Retries : Cmd → Prop
  | .advanceAttempt .. | .postpone _ => True
  | _ => False

end Cmd

lemma respected_retries : Respected Cmd.Retries fun _ _ => False where
  delivery {_ c} hc := by
    cases c <;> first
      | exact hc.elim
      | exact not_false
  dequeue _ _ _ := not_false
  drained _ _ hc := hc.elim

lemma Job.uses_of_client {job : Job} (hjob : job.isWakePass = false) :
    (job.program u).Uses fun c => ¬c.Retries :=
  (Job.cautious_of_client respected_retries hjob).uses

/-! ## The protocol of the wake loop -/

inductive LoopPhase
  | resting
  | due
  | busy
deriving DecidableEq, Repr

namespace LoopPhase

/-- Was the wake listed and not dealt with yet? -/
def isDue : LoopPhase → Bool
  | resting => false
  | due | busy => true

def allows (w : String) (phase : LoopPhase) : Cmd → Prop
  | .readyWakes => phase = .resting
  | .isIdle workspace | .cancelWake workspace | .advanceAttempt workspace _ =>
    w = workspace → phase = .due
  | .postpone workspace => w = workspace → phase = .busy
  | .schedule .. => False
  | _ => True

def next (w : String) (phase : LoopPhase) : (c : Cmd) → c.Result → LoopPhase
  | .readyWakes, ready => if w ∈ ready.map PendingWake.workspace then .due else .resting
  | .isIdle workspace, idle => if w = workspace ∧ idle = false then .busy else phase
  | .cancelWake workspace, _ | .advanceAttempt workspace _, _ | .postpone workspace, _ =>
    if w = workspace then .resting else phase
  | _, _ => phase

end LoopPhase

def Cmd.ListsOnce : (c : Cmd) → c.Result → Prop
  | .readyWakes, ready => (ready.map PendingWake.workspace).Nodup
  | _, _ => True

lemma Cmd.listsOnce_exec (r : Reading) (d : HandlerCtx) (c : Cmd) :
    c.ListsOnce (c.exec u r d).1 := by
  cases c with
  | readyWakes => exact WakeMap.nodup_ready d.wakeScheduler r.now
  | _ => trivial

/-- The protocol of the wake loop for `w`. -/
def loopProtocol (w : String) : Protocol Cmd.Result LoopPhase where
  rely := Cmd.ListsOnce
  allowed := LoopPhase.allows w
  next := LoopPhase.next w

/-- Commands that are no concern of the wake of `w`. -/
def Cmd.Aside (w : String) : Cmd → Prop
  | .readyWakes | .schedule .. => False
  | .isIdle workspace | .cancelWake workspace | .advanceAttempt workspace _
  | .postpone workspace => w ≠ workspace
  | _ => True

lemma Cmd.Aside.ignores {c : Cmd} (h : c.Aside w) : (loopProtocol w).Ignores c := by
  cases c with
  | readyWakes => exact h.elim
  | schedule workspace sender => exact h.elim
  | isIdle workspace => exact ⟨fun _ hw => absurd hw h, fun _ _ => if_neg fun hw => h hw.1⟩
  | cancelWake workspace => exact ⟨fun _ hw => absurd hw h, fun _ _ => if_neg h⟩
  | advanceAttempt workspace result => exact ⟨fun _ hw => absurd hw h, fun _ _ => if_neg h⟩
  | postpone workspace => exact ⟨fun _ hw => absurd hw h, fun _ _ => if_neg h⟩
  | _ => exact ⟨fun _ => trivial, fun _ _ => rfl⟩

lemma aside_refillBeforeWake (wake : PendingWake) :
    (refillBeforeWake u wake).Uses (Cmd.Aside w) := by
  refine .bind (.call trivial) fun pending => ?_
  split
  · refine .bind (.call trivial) fun _ => .bind ?_ fun _ => .call trivial
    refine .bind (.call trivial) fun tasks => .bind (.mapM fun task _ => ?_) fun _ => .ret _
    refine .bind (.call trivial) fun unread => ?_
    split
    · exact .ret _
    · refine .bind ?_ fun _ => .ret _
      refine .bind (.call trivial) fun _ => .bind (.call trivial) fun _ => ?_
      exact .bind (.call trivial) fun _ => .ret _
  · exact .ret _

lemma aside_attemptWake {wake : PendingWake} (hw : w ≠ wake.workspace) :
    (attemptWake wake).Uses (Cmd.Aside w) := by
  refine .bind (.call trivial) fun pending => ?_
  split
  · exact .bind (.call hw) fun _ => .ret _
  · refine .bind (.call trivial) fun live => ?_
    split
    · refine .bind (.call hw) fun idle => ?_
      split
      · exact .bind (.call trivial) fun _ => .bind (.call hw) fun _ => .ret _
      · exact .bind (.call hw) fun _ => .ret _
    · refine .bind (.call trivial) fun ensured => ?_
      split
      · exact .bind (.call hw) fun _ => .ret _
      · exact .bind (.call hw) fun _ => .ret _

lemma follows_attemptWake (wake : PendingWake) :
    (loopProtocol wake.workspace).Follows (fun _ t => t = .resting) .due (attemptWake wake) := by
  refine .act trivial fun pending _ => ?_
  split
  · exact .act (fun _ => rfl) fun _ _ => .ret (if_pos rfl)
  · refine .act trivial fun live _ => ?_
    split
    · refine .act (fun _ => rfl) fun idle _ => ?_
      split
      · rename_i hidle
        have hphase : LoopPhase.next wake.workspace .due (.isIdle wake.workspace) idle = .due :=
          if_neg fun h => absurd hidle (Bool.eq_false_iff.mp h.2)
        refine .act trivial fun result _ => .act (fun _ => hphase) fun _ _ => ?_
        exact .ret (if_pos rfl)
      · rename_i hbusy
        have hphase : LoopPhase.next wake.workspace .due (.isIdle wake.workspace) idle = .busy :=
          if_pos ⟨rfl, Bool.eq_false_iff.mpr hbusy⟩
        exact .act (fun _ => hphase) fun _ _ => .ret (if_pos rfl)
    · refine .act trivial fun ensured _ => ?_
      split
      · exact .act (fun _ => rfl) fun _ _ => .ret (if_pos rfl)
      · exact .act (fun _ => rfl) fun _ _ => .ret (if_pos rfl)

def LoopPhase.Left (w : String) (ready : List PendingWake) (phase : LoopPhase) : Prop :=
  (ready.map PendingWake.workspace).Nodup ∧
    phase = if w ∈ ready.map PendingWake.workspace then .due else .resting

lemma follows_processDue {wake : PendingWake} {ready : List PendingWake} {phase : LoopPhase}
    (h : phase.Left w (wake :: ready)) :
    (loopProtocol w).Follows (fun _ t => t.Left w ready) phase (processDue u wake) := by
  obtain ⟨hnodup, hphase⟩ := h
  obtain ⟨hfirst, hnodup'⟩ := List.nodup_cons.mp hnodup
  have hrefill : (loopProtocol w).Follows (fun _ t => t = phase) phase (refillBeforeWake u wake) :=
    .of_uses ((aside_refillBeforeWake wake).mono fun _ hc => hc.ignores)
  by_cases hw : w = wake.workspace
  · -- The wake of `w` itself: the rest of the list has no other.
    subst hw
    obtain rfl : phase = .due := by
      rw [hphase]
      exact if_pos List.mem_cons_self
    have hwake : (loopProtocol wake.workspace).Follows (fun _ t => t = .resting) .due
        (processWake u wake) := by
      refine .bind hrefill ?_
      rintro _ t rfl
      exact follows_attemptWake wake
    refine .bind hwake ?_
    rintro _ t rfl
    exact .ret ⟨hnodup', (if_neg hfirst).symm⟩
  · have hwake : (loopProtocol w).Follows (fun _ t => t = phase) phase (processWake u wake) := by
      refine .bind hrefill ?_
      rintro _ t rfl
      exact .of_uses ((aside_attemptWake hw).mono fun _ hc => hc.ignores)
    refine .bind hwake ?_
    rintro _ t rfl
    refine .ret ⟨hnodup', ?_⟩
    simpa only [List.map_cons, List.mem_cons, hw, false_or] using hphase

lemma follows_process :
    (loopProtocol w).Follows (fun _ t => t = .resting) .resting (process u) := by
  refine .act rfl fun ready hnodup => ?_
  have hloop : (loopProtocol w).Follows (fun _ t => t.Left w [])
      (LoopPhase.next w .resting .readyWakes ready) (Prog.mapM (processDue u) ready) :=
    .mapM (I := fun wakes t => LoopPhase.Left w wakes t) (fun _ _ _ ht => follows_processDue ht)
      ⟨hnodup, rfl⟩
  exact hloop.mono fun _ _ ht => ht.2

def wakeLoop (u : Unicode) : Nat → Program Unit
  | 0 => return ()
  | passes + 1 => do
      let _ ← process u
      wakeLoop u passes

lemma follows_wakeLoop (passes : Nat) :
    (loopProtocol w).Follows (fun _ _ => True) .resting (wakeLoop u passes) := by
  induction passes with
  | zero => exact .ret trivial
  | succ passes ih =>
    refine .bind follows_process ?_
    rintro _ t rfl
    exact ih

/-! ## Commands and the attempts for a wake -/

/-- The times of the attempts that a command counts for `w`. -/
def Cmd.countedAt (w : String) (now : Timestamp) (d : HandlerCtx) (c : Cmd) : List Timestamp :=
  if c.counts w d then [now] else []

section Commands

variable {c : Cmd} {d : HandlerCtx} {r : Reading} {phase : LoopPhase} {attempts : List Timestamp}

lemma Cmd.countedAt_eq_nil (h : c.counts w d = false) : c.countedAt w r.now d = [] := by
  unfold Cmd.countedAt
  rw [h]
  rfl

lemma tracks_exec_of_loop (hallowed : phase.allows w c)
    (h : wakePolicy.Tracks r.now phase.isDue (d.retry w) attempts) :
    wakePolicy.Tracks r.now (phase.next w c (c.exec u r d).1).isDue
      (c.onWake w r.now (d.retry w)) (attempts ++ c.countedAt w r.now d) := by
  cases c with
  | readyWakes =>
    rw [Cmd.countedAt_eq_nil rfl, List.append_nil]
    by_cases hlisted : w ∈ (d.wakeScheduler.ready r.now).map PendingWake.workspace
    · have hnext : phase.next w .readyWakes (Cmd.readyWakes.exec u r d).1 = .due :=
        if_pos hlisted
      obtain ⟨entry, hget, hdue⟩ := WakeMap.mem_ready_iff.mp hlisted
      have hlist : wakePolicy.Tracks r.now true (d.retry w) attempts := by
        rw [HandlerCtx.retry, hget] at h ⊢
        exact h.list hdue true
      rw [hnext]
      exact hlist
    · have hnext : phase.next w .readyWakes (Cmd.readyWakes.exec u r d).1 = .resting :=
        if_neg hlisted
      obtain rfl : phase = .resting := hallowed
      rw [hnext]
      exact h
  | isIdle workspace =>
    rw [Cmd.countedAt_eq_nil rfl, List.append_nil]
    by_cases hbusy : w = workspace ∧ r.isIdle workspace = false
    · have hnext : phase.next w (.isIdle workspace) ((Cmd.isIdle workspace).exec u r d).1 =
          .busy :=
        if_pos hbusy
      obtain rfl : phase = .due := hallowed hbusy.1
      rw [hnext]
      exact h
    · have hnext : phase.next w (.isIdle workspace) ((Cmd.isIdle workspace).exec u r d).1 =
          phase :=
        if_neg hbusy
      rw [hnext]
      exact h
  | cancelWake workspace =>
    rw [Cmd.countedAt_eq_nil rfl, List.append_nil]
    simp only [LoopPhase.next, Cmd.onWake]
    split
    · exact h.drop _
    · exact h
  | postpone workspace =>
    rw [Cmd.countedAt_eq_nil rfl, List.append_nil]
    simp only [LoopPhase.next, Cmd.onWake]
    split
    · rename_i hw
      obtain rfl : phase = .busy := hallowed hw
      cases hentry : d.retry w with
      | none => exact h.drop _
      | some entry =>
        rw [hentry] at h
        exact h.postpone
    · exact h
  | advanceAttempt workspace result =>
    simp only [LoopPhase.next, Cmd.onWake]
    by_cases hw : w = workspace
    · rw [if_pos hw, if_pos hw]
      obtain rfl : phase = .due := hallowed hw
      subst hw
      unfold Cmd.countedAt Cmd.counts WakeMap.isPending
      unfold HandlerCtx.retry at h ⊢
      cases hget : d.wakeScheduler.get w with
      | none =>
        simp only [Option.isSome_none, Bool.and_false, Bool.false_eq_true, if_false,
          List.append_nil]
        exact h.drop _
      | some entry =>
        rw [hget] at h
        simp only [Option.isSome_some, decide_true, Bool.and_true, if_true]
        exact h.count _
    · rw [if_neg hw, if_neg hw, Cmd.countedAt_eq_nil, List.append_nil]
      · exact h
      · simp [Cmd.counts, Ne.symm hw]
  | schedule workspace sender => exact hallowed.elim
  | _ =>
    rw [Cmd.countedAt_eq_nil rfl, List.append_nil]
    exact h

lemma tracks_exec_of_client (hretries : ¬c.Retries) (hschedule : c.schedules w = false)
    {due : Bool} (h : wakePolicy.Tracks r.now due (d.retry w) attempts) :
    wakePolicy.Tracks r.now due (c.onWake w r.now (d.retry w))
      (attempts ++ c.countedAt w r.now d) := by
  cases c with
  | schedule workspace sender =>
    have hw : w ≠ workspace := fun heq => of_decide_eq_false hschedule heq.symm
    rw [Cmd.countedAt_eq_nil rfl, List.append_nil, Cmd.onWake, if_neg hw]
    exact h
  | cancelWake workspace =>
    rw [Cmd.countedAt_eq_nil rfl, List.append_nil, Cmd.onWake]
    split
    · exact h.drop _
    · exact h
  | postpone workspace => exact absurd trivial hretries
  | advanceAttempt workspace result => exact absurd trivial hretries
  | _ =>
    rw [Cmd.countedAt_eq_nil rfl, List.append_nil]
    exact h

end Commands

/-! ## The loop among other jobs -/

namespace Threads

def withLoop (u : Unicode) (passes : Nat) (jobs : List Job) (d : HandlerCtx) : Threads where
  threads := wakeLoop u passes :: jobs.map (Job.program u)
  shared := ⟨d, false⟩

def pendingWake (p : Threads) (w : String) : Option PendingWake :=
  p.shared.ctx.wakeScheduler.get w

/-- The turn counts an attempt for the pending wake of `w`. -/
def Counts (w : String) (p : Threads) (a : Turn Reading) : Bool :=
  (p.command a.thread).any (Cmd.counts w p.shared.ctx)

/-- The times of the attempts that are counted for `w` in the course of some turns. -/
def counted (u : Unicode) (w : String) : Threads → List (Turn Reading) → List Timestamp
  | _, [] => []
  | p, a :: as =>
    (if p.Counts w a then [a.reading.now] else []) ++
      (p.next (Shared.exec u) a).elim [] fun q => counted u w q as

/-- The loop follows its protocol for `w`, and the other jobs leave the retries alone. -/
abbrev Led (w : String) (p : Threads) (phase : LoopPhase) : Prop :=
  Pool.Led (loopProtocol w) (fun c => ¬c.Retries) p phase

lemma led_withLoop {passes : Nat} {jobs : List Job} {d : HandlerCtx}
    (hclients : ∀ job ∈ jobs, job.isWakePass = false) :
    (withLoop u passes jobs d).Led w .resting where
  first t ht := by
    obtain rfl := Option.some.inj ht
    exact follows_wakeLoop passes
  rest i t ht := by
    obtain ⟨job, hjob, rfl⟩ := List.mem_map.mp (List.mem_of_getElem? ht)
    exact Job.uses_of_client (hclients job hjob)

variable {a : Turn Reading} {p q : Threads} {phase : LoopPhase} {as : List (Turn Reading)}

lemma Led.turn (h : p.Led w phase) (hstep : Step u p a q) :
    ∃ c, p.command a.thread = some c ∧
      q.shared.ctx.retry w = c.onWake w a.reading.now (p.shared.ctx.retry w) ∧
      (a.thread = 0 ∧ phase.allows w c ∧
          q.Led w (phase.next w c (c.exec u a.reading p.shared.ctx).1) ∨
        a.thread ≠ 0 ∧ ¬c.Retries ∧ q.Led w phase) := by
  obtain ⟨c, out, hc, hout, hq, hturn⟩ := Pool.Led.step h hstep fun c out _ hout => by
    rw [(Shared.exec_eq_some hout).1]
    exact Cmd.listsOnce_exec a.reading p.shared.ctx c
  obtain ⟨hanswer, hctx⟩ := Shared.exec_eq_some hout
  refine ⟨c, hc, ?_, ?_⟩
  · rw [hq, hctx]
    exact HandlerCtx.retry_exec a.reading p.shared.ctx c
  · rw [← hanswer]
    exact hturn

lemma Led.tracks (h : p.Led w phase) (hstep : Step u p a q) (hschedule : ¬p.Schedules w a)
    {clock : Timestamp} (hclock : clock ≤ a.reading.now) {attempts : List Timestamp}
    (htracks : wakePolicy.Tracks clock phase.isDue (p.shared.ctx.retry w) attempts) :
    ∃ phase', q.Led w phase' ∧
      wakePolicy.Tracks a.reading.now phase'.isDue (q.shared.ctx.retry w)
        (attempts ++ if p.Counts w a then [a.reading.now] else []) := by
  obtain ⟨c, hc, hretry, hturn⟩ := h.turn hstep
  have hcounts : p.Counts w a = c.counts w p.shared.ctx := by rw [Counts, hc, Option.any_some]
  have hschedule' : c.schedules w = false := by simpa [Schedules, hc] using hschedule
  have hnow := htracks.tick hclock
  rw [hretry, hcounts]
  rcases hturn with ⟨_, hallowed, hled⟩ | ⟨_, hretries, hled⟩
  · exact ⟨_, hled, tracks_exec_of_loop hallowed hnow⟩
  · exact ⟨phase, hled, tracks_exec_of_client hretries hschedule' hnow⟩

lemma counted_cons (hstep : Step u p a q) :
    counted u w p (a :: as) =
      (if p.Counts w a then [a.reading.now] else []) ++ counted u w q as := by
  rw [counted, show p.next (Shared.exec u) a = some q from hstep]
  rfl

lemma tracks_of_exec (hrun : Exec (Step u) p as q) (hled : p.Led w phase)
    (hschedule : Exec.EachStep (Step u) (fun p a => ¬p.Schedules w a) p as) {clock : Timestamp}
    (hclock : (clock :: as.map fun a => a.reading.now).Pairwise (· ≤ ·)) {attempts : List Timestamp}
    (htracks : wakePolicy.Tracks clock phase.isDue (p.shared.ctx.retry w) attempts) :
    ∃ clock' phase', wakePolicy.Tracks clock' phase' (q.shared.ctx.retry w)
      (attempts ++ counted u w p as) := by
  induction hrun generalizing phase clock attempts with
  | nil p => exact ⟨clock, phase.isDue, by rwa [counted, List.append_nil]⟩
  | @cons p m q a as hstep hrest ih =>
    obtain ⟨hfirst, hclock'⟩ := List.pairwise_cons.mp hclock
    obtain ⟨phase', hled', htracks'⟩ := hled.tracks hstep
      hschedule.head (hfirst _ List.mem_cons_self) htracks
    rw [counted_cons hstep, ← List.append_assoc]
    exact ih hled' (hschedule.tail hstep) hclock' htracks'

lemma exists_led (hrun : Exec (Step u) p as q) (hled : p.Led w phase) :
    ∃ phase', q.Led w phase' := by
  refine hrun.invariant (P := fun p => ∃ phase', Threads.Led w p phase') ?_ ⟨phase, hled⟩
  rintro p a q hstep ⟨phase', hled'⟩
  obtain ⟨c, _, _, ⟨_, _, hnext⟩ | ⟨_, _, hsame⟩⟩ := hled'.turn hstep
  · exact ⟨_, hnext⟩
  · exact ⟨phase', hsame⟩

end Threads

/-! ## Bounds, busy sessions and successful wakes -/

section Commands

variable {c : Cmd} {now : Timestamp} {entry : Option (Retry Timestamp)} {phase : LoopPhase}

lemma Cmd.attempts_lt_onWake (h : ∀ e, entry = some e → e.attempts < wakeMaxAttempts) :
    ∀ e, c.onWake w now entry = some e → e.attempts < wakeMaxAttempts := by
  intro e he
  cases c with
  | schedule workspace sender =>
    simp only [Cmd.onWake] at he
    split at he
    · obtain rfl := Option.some.inj he
      show 0 < wakeMaxAttempts
      decide
    · exact h e he
  | cancelWake workspace =>
    simp only [Cmd.onWake] at he
    split at he
    · cases he
    · exact h e he
  | postpone workspace =>
    simp only [Cmd.onWake] at he
    split at he
    · obtain ⟨e', he', rfl⟩ := Option.map_eq_some_iff.mp he
      exact h e' he'
    · exact h e he
  | advanceAttempt workspace result =>
    simp only [Cmd.onWake] at he
    split at he
    · obtain ⟨e', _, hcount⟩ := Option.bind_eq_some_iff.mp he
      exact (wakePolicy.lt_of_count hcount).2
    · exact h e he
  | _ => exact h e he

lemma LoopPhase.next_ne_due (h : phase ≠ .due) (hc : c ≠ .readyWakes) (r : c.Result) :
    phase.next w c r ≠ .due := by
  cases c with
  | readyWakes => exact absurd rfl hc
  | isIdle workspace =>
    simp only [LoopPhase.next]
    split
    · exact LoopPhase.noConfusion
    · exact h
  | cancelWake workspace | advanceAttempt workspace _ | postpone workspace =>
    simp only [LoopPhase.next]
    split
    · exact LoopPhase.noConfusion
    · exact h
  | _ => exact h

lemma LoopPhase.attempts_onWake (h : phase ≠ .due) (hallowed : phase.allows w c) :
    (c.onWake w now entry).map Retry.attempts = entry.map Retry.attempts := by
  cases c with
  | schedule workspace sender => exact hallowed.elim
  | cancelWake workspace => rw [Cmd.onWake, if_neg fun hw => h (hallowed hw)]
  | advanceAttempt workspace result => rw [Cmd.onWake, if_neg fun hw => h (hallowed hw)]
  | postpone workspace =>
    rw [Cmd.onWake]
    split
    · rw [Option.map_map]
      rfl
    · rfl
  | _ => rfl

def wakeOk : Option (Except String Unit) → Bool
  | some (.ok _) => true
  | some (.error _) | none => false

lemma wakeFailed_of_wakeOk {result : Option (Except String Unit)} (h : wakeOk result = true) :
    WakeMap.wakeFailed result = false := by
  rcases result with _ | _ | _
  · rfl
  · cases h
  · rfl

/-- The command does not drop the wake of `w`, and if it counts an attempt for it, then a
successful one. -/
def Cmd.keepsWaking (w : String) (d : HandlerCtx) : Cmd → Bool
  | .cancelWake workspace => decide (workspace ≠ w)
  | .advanceAttempt workspace result =>
    !(decide (workspace = w) && d.wakeScheduler.isPending w) || wakeOk result
  | _ => true

lemma Cmd.remaining_onWake {d : HandlerCtx} {n : Nat} (hschedule : c.schedules w = false)
    (hkeeps : c.keepsWaking w d = true)
    (h : (d.retry w).map Retry.attempts = wakePolicy.remaining n) :
    (c.onWake w now (d.retry w)).map Retry.attempts =
      wakePolicy.remaining (n + (c.countedAt w now d).length) := by
  cases c with
  | schedule workspace sender =>
    have hw : w ≠ workspace := fun heq => of_decide_eq_false hschedule heq.symm
    rw [Cmd.onWake, if_neg hw]
    exact h
  | cancelWake workspace =>
    rw [Cmd.onWake, if_neg fun hw => of_decide_eq_true hkeeps hw.symm]
    exact h
  | postpone workspace =>
    rw [Cmd.onWake]
    split
    · rw [Option.map_map]
      exact h
    · exact h
  | advanceAttempt workspace result =>
    by_cases hw : w = workspace
    · subst hw
      rw [Cmd.onWake, if_pos rfl]
      unfold Cmd.countedAt Cmd.counts
      unfold HandlerCtx.retry at h ⊢
      unfold Cmd.keepsWaking at hkeeps
      unfold WakeMap.isPending at hkeeps ⊢
      cases hget : d.wakeScheduler.get w with
      | none =>
        rw [hget] at h
        simpa using h
      | some wake =>
        rw [hget] at h hkeeps
        have hok : wakeOk result = true := by simpa using hkeeps
        -- The wake is still there after `n` attempts, so there are some left.
        have hn : wake.attempts = n := by
          unfold RetryPolicy.remaining at h
          split at h
          · exact Option.some.inj h
          · cases h
        simp only [Option.map_some, Option.bind_some, wakeFailed_of_wakeOk hok,
          Option.isSome_some, decide_true, Bool.and_true, if_true, List.length_singleton]
        rw [RetryPolicy.map_attempts_count, ← hn]
        rfl
    · rw [Cmd.onWake, if_neg hw, Cmd.countedAt, if_neg]
      · exact h
      · simp [Cmd.counts, Ne.symm hw]
  | _ => exact h

/-- The answer tells of a message for `w` and of a session of `w` that is live, idle and
can be woken. -/
def Cmd.Favourable (w : String) : (c : Cmd) → c.Result → Prop
  | .pendingCount workspace, pending => workspace = w → pending ≠ 0
  | .sessionExists workspace, live => workspace = w → live = true
  | .isIdle workspace, idle => workspace = w → idle = true
  | .wakeWorkspace workspace _, result => workspace = w → result = .ok ()
  | _, _ => True

/-- The command neither drops the wake of `w` nor puts it off, and if it counts an attempt
for it, then a successful one. -/
def Cmd.OnlyWakes (w : String) : Cmd → Prop
  | .cancelWake workspace | .postpone workspace => workspace ≠ w
  | .advanceAttempt workspace result => workspace = w → wakeOk result = true
  | _ => True

lemma onlyWakes_attemptWake (wake : PendingWake) :
    (attemptWake wake).Honours (Cmd.Favourable wake.workspace) (Cmd.OnlyWakes wake.workspace)
      (· = .woken) := by
  refine .act trivial fun pending hpending => ?_
  rw [if_neg (hpending rfl)]
  refine .act trivial fun live hlive => ?_
  rw [if_pos (hlive rfl)]
  refine .act trivial fun idle hidle => ?_
  rw [if_pos (hidle rfl)]
  refine .act trivial fun result hresult => ?_
  refine .act (fun _ => ?_) fun _ _ => .ret rfl
  rw [hresult rfl]
  rfl

end Commands

namespace Threads

/-- The turn does not drop the wake of `w`, and if it counts an attempt for it, then a
successful one. -/
def KeepsWaking (w : String) (p : Threads) (a : Turn Reading) : Prop :=
  (p.command a.thread).all (Cmd.keepsWaking w p.shared.ctx) = true

lemma remaining_of_exec {p q : Threads} {as : List (Turn Reading)} (hrun : Exec (Step u) p as q)
    (hschedule : Exec.EachStep (Step u) (fun p a => ¬p.Schedules w a) p as)
    (hwaking : Exec.EachStep (Step u) (KeepsWaking w) p as) {n : Nat}
    (h : (p.shared.ctx.retry w).map Retry.attempts = wakePolicy.remaining n) :
    (q.shared.ctx.retry w).map Retry.attempts =
      wakePolicy.remaining (n + (counted u w p as).length) := by
  induction hrun generalizing n with
  | nil p => exact h
  | @cons p m q a as hstep hrest ih =>
    obtain ⟨c, hc, hctx⟩ := exec_of_step hstep
    have hschedule' : c.schedules w = false := by
      simpa [Schedules, hc] using hschedule.head
    have hkeeps : c.keepsWaking w p.shared.ctx = true := by
      simpa [KeepsWaking, hc] using hwaking.head
    have hcounts : p.Counts w a = c.counts w p.shared.ctx := by
      rw [Counts, hc, Option.any_some]
    rw [counted_cons hstep, hcounts, List.length_append, ← Nat.add_assoc]
    refine ih (hschedule.tail hstep) (hwaking.tail hstep) ?_
    rw [hctx, HandlerCtx.retry_exec]
    exact Cmd.remaining_onWake hschedule' hkeeps h

end Threads

/-! ## Runs of the loop among other jobs -/

structure WakeRun (u : Unicode) where
  passes : Nat
  jobs : List Job
  clients : ∀ job ∈ jobs, job.isWakePass = false
  ctx : HandlerCtx
  unscheduled : ctx.wakeScheduler = KeyedMap.empty
  turns : List (Turn Reading)
  last : Threads
  reached : Exec (Threads.Step u) (Threads.withLoop u passes jobs ctx) turns last
  monotone : turns.Pairwise fun a b => a.reading.now ≤ b.reading.now

namespace WakeRun

def start (run : WakeRun u) : Threads :=
  Threads.withLoop u run.passes run.jobs run.ctx

lemma led_start (run : WakeRun u) : run.start.Led w .resting :=
  Threads.led_withLoop run.clients

/-- A turn that schedules the wake of `w`, and turns after it that do not do so again. -/
structure Epoch (run : WakeRun u) (w : String) where
  before : List (Turn Reading)
  turn : Turn Reading
  during : List (Turn Reading)
  rest : List (Turn Reading)
  scheduling : Threads
  scheduled : Threads
  last : Threads
  split : run.turns = before ++ turn :: (during ++ rest)
  reached : Exec (Threads.Step u) run.start before scheduling
  schedules : scheduling.Schedules w turn
  step : Threads.Step u scheduling turn scheduled
  passed : Exec (Threads.Step u) scheduled during last
  once : Exec.EachStep (Threads.Step u) (fun p a => ¬p.Schedules w a) scheduled during

namespace Epoch

variable {run : WakeRun u}

/-- The times of the attempts that are counted for `w`. -/
def attempts (e : run.Epoch w) : List Timestamp :=
  Threads.counted u w e.scheduled e.during

def KeepsWaking (e : run.Epoch w) : Prop :=
  Exec.EachStep (Threads.Step u) (Threads.KeepsWaking w) e.scheduled e.during

lemma exists_led_scheduled (e : run.Epoch w) :
    ∃ phase, e.scheduled.Led w phase ∧
      e.scheduled.shared.ctx.retry w = some ⟨0, e.turn.reading.now + seconds 5⟩ := by
  obtain ⟨phase, hled⟩ := Threads.exists_led e.reached (run.led_start (w := w))
  obtain ⟨c, hc, hretry, hturn⟩ := hled.turn e.step
  have hschedules := e.schedules
  rw [Threads.Schedules, hc] at hschedules
  cases c with
  | schedule workspace sender =>
    obtain rfl : workspace = w := of_decide_eq_true hschedules
    rcases hturn with ⟨_, hallowed, _⟩ | ⟨_, _, hled'⟩
    · exact hallowed.elim
    · exact ⟨phase, hled', hretry.trans (if_pos rfl)⟩
  | _ => cases hschedules

lemma monotone (e : run.Epoch w) :
    (e.turn.reading.now :: e.during.map fun a => a.reading.now).Pairwise (· ≤ ·) := by
  have hsub : (e.turn :: e.during).Sublist run.turns := by
    rw [e.split]
    exact ((List.sublist_append_left e.during e.rest).cons_cons e.turn).trans
      (List.sublist_append_right e.before _)
  exact List.pairwise_map.mpr (run.monotone.sublist hsub)

lemma exists_tracks (e : run.Epoch w) :
    ∃ clock due, wakePolicy.Tracks clock due (e.last.shared.ctx.retry w) e.attempts := by
  obtain ⟨phase, hled, hretry⟩ := e.exists_led_scheduled
  have htracks : wakePolicy.Tracks e.turn.reading.now phase.isDue (e.scheduled.shared.ctx.retry w)
      [] := by
    rw [hretry]
    exact .start (by decide)
  exact Threads.tracks_of_exec e.passed hled e.once e.monotone htracks

lemma remaining (e : run.Epoch w) (hwaking : e.KeepsWaking) :
    (e.last.shared.ctx.retry w).map Retry.attempts =
      wakePolicy.remaining e.attempts.length := by
  obtain ⟨_, _, hretry⟩ := e.exists_led_scheduled
  have hstart : (e.scheduled.shared.ctx.retry w).map Retry.attempts = wakePolicy.remaining 0 := by
    rw [hretry]
    rfl
  have hend := Threads.remaining_of_exec e.passed e.once hwaking hstart
  rwa [Nat.zero_add] at hend

end Epoch

/-- A turn in which the loop finds the session of `w` busy, and a later turn of the loop in
the same pass. -/
structure BusyPass (run : WakeRun u) (w : String) where
  before : List (Turn Reading)
  finding : Turn Reading
  during : List (Turn Reading)
  turn : Turn Reading
  rest : List (Turn Reading)
  asking : Threads
  found : Threads
  earlier : Threads
  later : Threads
  split : run.turns = before ++ finding :: (during ++ turn :: rest)
  reached : Exec (Threads.Step u) run.start before asking
  byLoop : finding.thread = 0
  asks : asking.command 0 = some (.isIdle w)
  busy : finding.reading.isIdle w = false
  finds : Threads.Step u asking finding found
  passed : Exec (Threads.Step u) found during earlier
  samePass : Exec.EachStep (Threads.Step u)
    (fun p a => a.thread = 0 → p.command 0 ≠ some .readyWakes) found during
  ofLoop : turn.thread = 0
  step : Threads.Step u earlier turn later

lemma BusyPass.attempts {run : WakeRun u} (b : run.BusyPass w) :
    (b.later.shared.ctx.retry w).map Retry.attempts =
      (b.earlier.shared.ctx.retry w).map Retry.attempts := by
  -- The finding leads to the busy phase.
  obtain ⟨phase, hled⟩ := Threads.exists_led b.reached run.led_start
  have hfound : ∃ phase' ≠ LoopPhase.due, b.found.Led w phase' := by
    obtain ⟨c, hc, _, ⟨_, _, hnext⟩ | ⟨hother, _⟩⟩ := hled.turn b.finds
    · rw [b.byLoop, b.asks] at hc
      obtain rfl := Option.some.inj hc
      exact ⟨.busy, LoopPhase.noConfusion, (if_pos ⟨rfl, b.busy⟩ :
        phase.next w (.isIdle w) (b.finding.reading.isIdle w) = .busy) ▸ hnext⟩
    · exact absurd b.byLoop hother
  -- It stays so in the rest of the pass.
  have hearlier : ∃ phase' ≠ LoopPhase.due, b.earlier.Led w phase' := by
    refine b.passed.invariant_of_eachStep
      (Q := fun p => ∃ phase' ≠ LoopPhase.due, Threads.Led w p phase') ?_ hfound b.samePass
    rintro p a q hstep ⟨phase', hphase', hled'⟩ hsame
    obtain ⟨c, hc, _, ⟨hloop, _, hnext⟩ | ⟨_, _, hwaits⟩⟩ := hled'.turn hstep
    · refine ⟨_, LoopPhase.next_ne_due hphase' ?_ _, hnext⟩
      rintro rfl
      rw [hloop] at hc
      exact hsame hloop hc
    · exact ⟨phase', hphase', hwaits⟩
  obtain ⟨phase', hphase', hled'⟩ := hearlier
  obtain ⟨c, _, hretry, ⟨_, hallowed, _⟩ | ⟨hother, _⟩⟩ := hled'.turn b.step
  · rw [hretry]
    exact LoopPhase.attempts_onWake hphase' hallowed
  · exact absurd b.ofLoop hother

lemma eachState_attempts_lt (run : WakeRun u) (w : String) :
    Exec.EachState (Threads.Step u) (fun p => ∀ wake, p.pendingWake w = some wake →
      wake.attempts < wakeMaxAttempts) run.start run.turns := by
  intro pre post p _ hpre wake hwake
  have hbelow : ∀ e, p.shared.ctx.retry w = some e → e.attempts < wakeMaxAttempts := by
    refine hpre.invariant
      (P := fun p => ∀ e, p.shared.ctx.retry w = some e → e.attempts < wakeMaxAttempts) ?_ ?_
    · intro p a q hstep hp
      obtain ⟨c, _, hctx⟩ := Threads.exec_of_step hstep
      rw [hctx, HandlerCtx.retry_exec]
      exact Cmd.attempts_lt_onWake hp
    · intro e he
      have hnone : run.start.shared.ctx.retry w = none := by
        show (run.ctx.wakeScheduler.get w).map PendingWake.retry = none
        rw [run.unscheduled, KeyedMap.get_empty]
        rfl
      rw [hnone] at he
      cases he
  exact hbelow wake.retry (congrArg (Option.map PendingWake.retry) hwake)

end WakeRun

/-- The retries of a wake in any interleaving of the wake loop with other jobs under a
clock that does not go back.  Every pending wake has attempts left.  From one scheduling of
the wake to the next, at most the maximum of attempts is counted, and each attempt comes no
sooner after the one before it than the back-off says; if nobody drops the wake and all
these attempts are successful wakes, the last of them drops it and no earlier one.  A pass
that finds the session busy neither counts an attempt nor drops the wake.  A pass that
finds a message and an idle live session wakes it and counts that. -/
theorem wake_retries_bounded (run : WakeRun u) (w : String) :
    Exec.EachState (Threads.Step u) (fun p => ∀ wake, p.pendingWake w = some wake →
      wake.attempts < wakeMaxAttempts) run.start run.turns ∧
    (∀ e : run.Epoch w,
      e.attempts.length ≤ wakeMaxAttempts ∧
      (∀ k t t', e.attempts[k]? = some t → e.attempts[k + 1]? = some t' →
        t + wakeBackoff (k + 1) ≤ t') ∧
      (e.KeepsWaking → (e.last.pendingWake w).map PendingWake.attempts =
        if e.attempts.length < wakeMaxAttempts then some e.attempts.length else none)) ∧
    (∀ b : run.BusyPass w, (b.later.pendingWake w).map PendingWake.attempts =
      (b.earlier.pendingWake w).map PendingWake.attempts) ∧
    ∀ wake : PendingWake, (attemptWake wake).Honours (Cmd.Favourable wake.workspace)
      (Cmd.OnlyWakes wake.workspace) (· = .woken) := by
  refine ⟨run.eachState_attempts_lt w, fun e => ?_, fun b => ?_, onlyWakes_attemptWake⟩
  · obtain ⟨clock, due, htracks⟩ := e.exists_tracks
    refine ⟨htracks.bounded, htracks.spaced, fun hwaking => ?_⟩
    have hleft := e.remaining hwaking
    rw [HandlerCtx.map_attempts_retry] at hleft
    exact hleft
  · have hsame := b.attempts
    rw [HandlerCtx.map_attempts_retry, HandlerCtx.map_attempts_retry] at hsame
    exact hsame

/-- The session of `bob` is idle at the given time. -/
def idleAt (now : Timestamp) : Reading :=
  { calmReading with now := now, isIdle := fun w => w = "bob" }

/-- Ten passes of the wake loop, a minute apart, each of which wakes `bob`. -/
def tenPasses : List (Turn Reading) :=
  (List.range 10).flatMap fun k => List.replicate 7 ⟨0, idleAt (seconds (60 * (k + 1)))⟩

/-- `ann` writes to `bob`, who does not read. -/
def sendToBob : List Job :=
  [.request (.sendMessage "ann" ⟨"bob", "hello", ""⟩)]

def tenWakesStates : Option (Threads × Threads × Threads) :=
  runAround (Pool.next (Shared.exec .ascii)) (Threads.withLoop .ascii 10 sendToBob newCtx)
    (turns 1 5) ⟨1, calmReading⟩ tenPasses

lemma tenWakes_isSome : tenWakesStates.isSome = true := by
  decide +kernel

/-- The run in which the loop wakes `bob` ten times. -/
def tenWakes : WakeRun .ascii where
  passes := 10
  jobs := sendToBob
  clients := by decide
  ctx := newCtx
  unscheduled := rfl
  turns := turns 1 5 ++ ⟨1, calmReading⟩ :: (tenPasses ++ [])
  last := (tenWakesStates.get tenWakes_isSome).2.2
  reached := by
    obtain ⟨hbefore, hturn, hafter⟩ := runAround_eq_some (Option.some_get tenWakes_isSome).symm
    rw [List.append_nil]
    exact (Threads.exec_of_runs hbefore).append (.cons hturn (Threads.exec_of_runs hafter))
  monotone := by decide +kernel

/-- The wake of `bob` in that run. -/
def tenWakesEpoch : tenWakes.Epoch "bob" where
  before := turns 1 5
  turn := ⟨1, calmReading⟩
  during := tenPasses
  rest := []
  scheduling := (tenWakesStates.get tenWakes_isSome).1
  scheduled := (tenWakesStates.get tenWakes_isSome).2.1
  last := (tenWakesStates.get tenWakes_isSome).2.2
  split := rfl
  reached := Threads.exec_of_runs (runAround_eq_some (Option.some_get tenWakes_isSome).symm).1
  schedules := by decide +kernel
  step := (runAround_eq_some (Option.some_get tenWakes_isSome).symm).2.1
  passed := Threads.exec_of_runs (runAround_eq_some (Option.some_get tenWakes_isSome).symm).2.2
  once := eachStep_of_checkSteps (fun _ _ _ h => h) (fun _ _ => Threads.not_schedules_of_test)
    (by decide +kernel)

/-- The tenth successful wake drops the wake of `bob`. -/
theorem tenth_wake_drops :
    tenWakesEpoch.attempts.length = wakeMaxAttempts ∧
      tenWakesEpoch.last.pendingWake "bob" = none := by
  have hcount : tenWakesEpoch.attempts.length = wakeMaxAttempts := by decide +kernel
  have hwaking : tenWakesEpoch.KeepsWaking :=
    eachStep_of_checkSteps (fun _ _ _ h => h) (fun _ _ h => h) (by decide +kernel)
  have hdropped := ((wake_retries_bounded tenWakes "bob").2.1 tenWakesEpoch).2.2 hwaking
  rw [hcount, if_neg (Nat.lt_irrefl _), Option.map_eq_none_iff] at hdropped
  exact ⟨hcount, hdropped⟩

end Ax.Daemon
