import Ax.Daemon.Server

/-!
# Mailboxes

The mailbox of a workspace is its inbox together with whether its wake is
pending.  The programs of the daemon are made of deliveries, purges and
readings, each about the mailbox of one workspace; the rest does not touch
mailboxes at all.

Main results:

- Theorems `respects_purgeTaskMessages` and `respects_handleReadMessages`: purges and
  readings drop the wake exactly when nothing is left unread.
- Theorem `backed_processWake`: a wake pass leaves no wake without mail.
-/

namespace Ax.Daemon

structure Mailbox where
  unread : List Message
  wakePending : Bool

def HandlerCtx.mailbox (d : HandlerCtx) (w : String) : Mailbox :=
  ⟨d.queue.inbox w, d.wakeScheduler.isPending w⟩

namespace Mailbox

def Attended (b : Mailbox) : Prop :=
  b.unread ≠ [] → b.wakePending = true

def Backed (b : Mailbox) : Prop :=
  b.wakePending = true → b.unread ≠ []

structure Announced (b : Mailbox) : Prop where
  unread : b.unread ≠ []
  wakePending : b.wakePending = true

/-- Both halves of the balance between mail and wakes are kept. -/
structure Tended (b b' : Mailbox) : Prop where
  attended : b.Attended → b'.Attended
  backed : b.Backed → b'.Backed

lemma Announced.tended {b b' : Mailbox} (h : b'.Announced) : b.Tended b' :=
  ⟨fun _ _ => h.wakePending, fun _ _ => h.unread⟩

end Mailbox

def AllTended (s s' : Sim) : Prop :=
  ∀ w, (s.ctx.mailbox w).Tended (s'.ctx.mailbox w)

/-- Keeping the balance composes. -/
instance : IsPreorder Sim AllTended where
  refl _ _ := ⟨id, id⟩
  trans _ _ _ h₁ h₂ w :=
    ⟨(h₂ w).attended ∘ (h₁ w).attended, (h₂ w).backed ∘ (h₁ w).backed⟩

/-! ## Commands and mailboxes -/

namespace Cmd

/-- Commands that can change the mailbox of `x` only. -/
def Within (x : String) : Cmd → Prop
  | .enqueue msg => msg.recipient = x
  | .dequeue workspace .. | .removeTaskMessages workspace _ | .schedule workspace _
  | .cancelWake workspace | .advanceAttempt workspace _ | .postpone workspace => workspace = x
  | _ => True

/-- Commands of a delivery to `x`. -/
def DeliversTo (x : String) : Cmd → Prop
  | .enqueue msg => msg.recipient = x
  | .removeTaskMessages workspace _ | .schedule workspace _ => workspace = x
  | .dequeue .. | .cancelWake _ | .advanceAttempt .. | .postpone _ => False
  | _ => True

def KeepsInboxes : Cmd → Prop
  | .enqueue _ | .dequeue .. | .removeTaskMessages .. => False
  | _ => True

/-- Commands that touch no mailbox. -/
def Quiet (c : Cmd) : Prop :=
  c.isQuiet = true

lemma DeliversTo.within {x : String} {c : Cmd} (h : c.DeliversTo x) : c.Within x := by
  cases c <;> first
    | exact h
    | exact h.elim

lemma Quiet.deliversTo {x : String} {c : Cmd} (h : c.Quiet) : c.DeliversTo x := by
  cases c <;> first
    | exact trivial
    | cases h

end Cmd

variable {u : Unicode} {α : Type}
  {c : Cmd} {d : HandlerCtx} {r : Reading} {w x workspace : String} {p : Program α} {s : Sim}
  {task : Task} {wake : PendingWake}

lemma mailbox_exec_of_quiet (h : c.Quiet) (w : String) :
    (c.exec u r d).2.mailbox w = d.mailbox w := by
  have hmail := exec_mail_of_isQuiet (u := u) (r := r) (d := d) h
  have hqueue : (c.exec u r d).2.queue = d.queue := congrArg Prod.fst hmail
  have hwakes : (c.exec u r d).2.wakeScheduler = d.wakeScheduler := congrArg Prod.snd hmail
  unfold HandlerCtx.mailbox
  rw [hqueue, hwakes]

lemma mailbox_exec_of_within (h : c.Within x) (hw : w ≠ x) :
    (c.exec u r d).2.mailbox w = d.mailbox w := by
  by_cases hquiet : c.Quiet
  · exact mailbox_exec_of_quiet hquiet w
  · cases c with
    | enqueue msg =>
      have hne : w ≠ msg.recipient := fun heq => hw (heq.trans h)
      simp [Cmd.exec, HandlerCtx.mailbox, MessageQueue.inbox_enqueue, hne]
    | dequeue workspace limit sender =>
      have hne : w ≠ workspace := fun heq => hw (heq.trans h)
      simp [Cmd.exec, HandlerCtx.mailbox, MessageQueue.inbox_dequeue, hne]
    | removeTaskMessages workspace taskId =>
      have hne : w ≠ workspace := fun heq => hw (heq.trans h)
      simp [Cmd.exec, HandlerCtx.mailbox, MessageQueue.inbox_removeTaskMessages, hne]
    | schedule workspace sender =>
      have hne : w ≠ workspace := fun heq => hw (heq.trans h)
      simp [Cmd.exec, HandlerCtx.mailbox, hne]
    | cancelWake workspace =>
      have hne : w ≠ workspace := fun heq => hw (heq.trans h)
      simp [Cmd.exec, HandlerCtx.mailbox, hne]
    | advanceAttempt workspace result =>
      have hne : w ≠ workspace := fun heq => hw (heq.trans h)
      simp [Cmd.exec, HandlerCtx.mailbox, WakeMap.isPending_advanceAttempt_of_ne _ _ _ hne]
    | postpone workspace => simp [Cmd.exec, HandlerCtx.mailbox]
    | _ => exact absurd rfl hquiet

lemma mailbox_of_uses_within (h : p.Uses (Cmd.Within x)) (hw : w ≠ x) (s : Sim) :
    (p.run (Sim.exec u) s).2.ctx.mailbox w = s.ctx.mailbox w :=
  Prog.Uses.preserves (P := fun t => t.ctx.mailbox w = s.ctx.mailbox w)
    (fun _ _ hc ht => (mailbox_exec_of_within hc hw).trans ht) h s rfl

lemma mailbox_of_uses_quiet (h : p.Uses Cmd.Quiet) (s : Sim) (w : String) :
    (p.run (Sim.exec u) s).2.ctx.mailbox w = s.ctx.mailbox w :=
  Prog.Uses.preserves (P := fun t => t.ctx.mailbox w = s.ctx.mailbox w)
    (fun _ _ hc ht => (mailbox_exec_of_quiet hc w).trans ht) h s rfl

lemma respects_of_announced (h : p.Uses (Cmd.Within x))
    (hx : ∀ s, ((p.run (Sim.exec u) s).2.ctx.mailbox x).Announced) :
    p.Respects (Sim.exec u) AllTended := by
  intro s w
  by_cases hw : w = x
  · subst hw
    exact (hx s).tended
  · rw [mailbox_of_uses_within h hw]
    exact ⟨id, id⟩

lemma respects_of_quiet (h : p.Uses Cmd.Quiet) : p.Respects (Sim.exec u) AllTended := by
  intro s w
  rw [mailbox_of_uses_quiet h]
  exact ⟨id, id⟩

lemma run_perform (c : Cmd) (f : c.Result → Program α) (s : Sim) :
    (perform c >>= f).run (Sim.exec u) s =
      (f (c.exec u (s.tape 0) s.ctx).1).run (Sim.exec u)
        { s.tick with ctx := (c.exec u (s.tape 0) s.ctx).2 } :=
  rfl

lemma run_pendingCount (x : String) (f : Nat → Program α) (s : Sim) :
    (perform (.pendingCount x) >>= f).run (Sim.exec u) s =
      (f (s.ctx.queue.pendingCount x)).run (Sim.exec u) s.tick :=
  rfl

lemma run_hasTaskMessage (x taskId : String) (f : Bool → Program α) (s : Sim) :
    (perform (.hasTaskMessage x taskId) >>= f).run (Sim.exec u) s =
      (f (s.ctx.queue.hasTaskMessage u x taskId)).run (Sim.exec u) s.tick := by
  rw [run_perform]
  simp only [Cmd.exec]
  rfl

lemma mailbox_sim_of_quiet (h : c.Quiet) (s : Sim) (w : String) :
    (Sim.exec u c s).2.ctx.mailbox w = s.ctx.mailbox w :=
  mailbox_exec_of_quiet h w

lemma mailbox_sim_of_within (h : c.Within x) (hw : w ≠ x) (s : Sim) :
    (Sim.exec u c s).2.ctx.mailbox w = s.ctx.mailbox w :=
  mailbox_exec_of_within h hw

lemma inbox_exec_of_keepsInboxes (h : c.KeepsInboxes) (w : String) :
    (c.exec u r d).2.queue.inbox w = d.queue.inbox w := by
  by_cases hquiet : c.Quiet
  · exact congrArg Mailbox.unread (mailbox_exec_of_quiet hquiet w)
  · cases c with
    | schedule workspace sender => rfl
    | cancelWake workspace => rfl
    | advanceAttempt workspace result => rfl
    | postpone workspace => rfl
    | enqueue msg => exact h.elim
    | dequeue workspace limit sender => exact h.elim
    | removeTaskMessages workspace taskId => exact h.elim
    | _ => exact absurd rfl hquiet

lemma unread_of_uses_keepsInboxes (h : p.Uses Cmd.KeepsInboxes) (s : Sim) (w : String) :
    ((p.run (Sim.exec u) s).2.ctx.mailbox w).unread = (s.ctx.mailbox w).unread := by
  refine Prog.Uses.preserves
    (P := fun t => (t.ctx.mailbox w).unread = (s.ctx.mailbox w).unread) ?_ h s rfl
  intro c t hc ht
  exact (inbox_exec_of_keepsInboxes hc w).trans ht

lemma unread_enqueue (msg : Message) (s : Sim) :
    ((Sim.exec u (.enqueue msg) s).2.ctx.mailbox msg.recipient).unread ≠ [] :=
  List.ne_nil_of_mem (MessageQueue.mem_inbox_enqueue _ _ _ _)

variable (sender : String)

lemma announced_schedule (h : (s.ctx.mailbox x).unread ≠ []) :
    ((Sim.exec u (.schedule x sender) s).2.ctx.mailbox x).Announced where
  unread := h
  wakePending := by simp [Sim.exec, Cmd.exec, HandlerCtx.mailbox]

/-! ## Programs that touch no mailbox -/

lemma quiet_touchNow (workspace : String) : (touchNow workspace).Uses Cmd.Quiet :=
  .bind (.call rfl) fun _ => .call rfl

lemma quiet_currentAxBin : currentAxBin.Uses Cmd.Quiet :=
  .bind (.call rfl) fun _ => .ret _

lemma quiet_refreshedTask (id : String) (task : Task) : (refreshedTask id task).Uses Cmd.Quiet :=
  .bind (.call rfl) fun _ => .ret _

lemma quiet_dispatchConfigPathForWorkspace (workspace : String) :
    (dispatchConfigPathForWorkspace workspace).Uses Cmd.Quiet :=
  .bind (.call rfl) fun _ => .ret _

lemma quiet_dispatchRecipients (configPath workspace : String) (recipients : List String) :
    (dispatchRecipients configPath workspace recipients).Uses Cmd.Quiet := by
  induction recipients with
  | nil => exact .ret _
  | cons recipient rest ih =>
    refine .bind (.call rfl) fun _ => ?_
    exact .attempt fun _ _ => ih

lemma quiet_touchNow_ret (workspace : String) (a : α) :
    (touchNow workspace >>= fun _ => pure a : Program α).Uses Cmd.Quiet :=
  .bind (quiet_touchNow workspace) fun _ => .ret _

lemma quiet_interveneInterrupt (action : String) (task : Task) :
    (interveneInterrupt u action task).Uses Cmd.Quiet := by
  refine .bind (.call rfl) fun live => ?_
  split
  · exact .bind (.call rfl) fun _ => .ret _
  · exact .ret _

lemma quiet_recoverPass : recoverPass.Uses Cmd.Quiet :=
  .bind (.call rfl) fun _ => .ret _

/-! ## Deliveries -/

lemma deliversTo_postMessage (sender recipient content : String) :
    (postMessage sender recipient content).Uses (Cmd.DeliversTo recipient) := by
  refine .bind (.call trivial) fun _ => ?_
  exact .bind (.call trivial) fun _ => .call rfl

lemma unread_postMessage (sender recipient content : String) (s : Sim) :
    (((postMessage sender recipient content).run (Sim.exec u) s).2.ctx.mailbox
      recipient).unread ≠ [] :=
  unread_enqueue _ _

lemma deliversTo_sendMessage (workspace to_ message : String) :
    (sendMessage workspace to_ message).Uses (Cmd.DeliversTo to_) := by
  refine .bind (deliversTo_postMessage _ _ _) fun _ => ?_
  refine .bind (.call trivial) fun _ => ?_
  exact .bind (.call rfl) fun _ => .ret _

lemma announced_sendMessage (workspace to_ message : String) (s : Sim) :
    (((sendMessage workspace to_ message).run (Sim.exec u) s).2.ctx.mailbox to_).Announced := by
  unfold sendMessage
  simp only [Prog.run_bind, Prog.run_call, Prog.run_pure]
  apply announced_schedule
  rw [mailbox_sim_of_quiet (c := .touch ..) rfl]
  exact unread_postMessage workspace to_ message s

lemma deliversTo_broadcastTo (workspace message recipient : String) :
    (broadcastTo workspace message recipient).Uses (Cmd.DeliversTo recipient) :=
  .bind (deliversTo_postMessage _ _ _) fun _ => .call rfl

lemma announced_broadcastTo (workspace message recipient : String) (s : Sim) :
    (((broadcastTo workspace message recipient).run (Sim.exec u) s).2.ctx.mailbox
      recipient).Announced := by
  unfold broadcastTo
  simp only [Prog.run_bind, Prog.run_call]
  apply announced_schedule
  exact unread_postMessage workspace recipient message s

lemma deliversTo_enqueueTaskMessage (task : Task) (sender content : String) :
    (enqueueTaskMessage u task sender content).Uses (Cmd.DeliversTo task.assignee) := by
  refine .bind (.call trivial) fun _ => ?_
  refine .bind (.call rfl) fun _ => ?_
  exact .bind (.call trivial) fun _ => .ret _

lemma unread_enqueueTaskMessage (task : Task) (sender content : String) (s : Sim) :
    (((enqueueTaskMessage u task sender content).run (Sim.exec u) s).2.ctx.mailbox
      task.assignee).unread ≠ [] := by
  unfold enqueueTaskMessage
  simp only [Prog.run_bind, Prog.run_call, Prog.run_pure]
  rw [mailbox_sim_of_quiet (c := .recordDispatch ..) rfl]
  exact unread_enqueue (taskAwareMessage u _ sender task.assignee content) _

lemma deliversTo_deliverTask (task : Task) (sender content : String) :
    (deliverTask u task sender content).Uses (Cmd.DeliversTo task.assignee) := by
  refine .bind (deliversTo_enqueueTaskMessage _ _ _) fun _ => ?_
  exact .bind (.call rfl) fun _ => .ret _

lemma announced_deliverTask (task : Task) (sender content : String) (s : Sim) :
    (((deliverTask u task sender content).run (Sim.exec u) s).2.ctx.mailbox
      task.assignee).Announced := by
  unfold deliverTask
  simp only [Prog.run_bind, Prog.run_call, Prog.run_pure]
  apply announced_schedule
  exact unread_enqueueTaskMessage task sender content s

lemma deliversTo_redeliverTask (workspace note : String) {retried : Task}
    (h : retried.assignee = task.assignee) :
    (redeliverTask u workspace note task retried).Uses (Cmd.DeliversTo task.assignee) := by
  refine .bind (.call rfl) fun _ => ?_
  refine .bind (h ▸ deliversTo_enqueueTaskMessage _ _ _) fun _ => ?_
  exact .bind (.call rfl) fun _ => .ret _

lemma announced_redeliverTask (workspace note : String) {retried : Task}
    (h : retried.assignee = task.assignee) (s : Sim) :
    (((redeliverTask u workspace note task retried).run (Sim.exec u) s).2.ctx.mailbox
      task.assignee).Announced := by
  unfold redeliverTask
  simp only [Prog.run_bind, Prog.run_call, Prog.run_pure]
  apply announced_schedule
  rw [← h]
  exact unread_enqueueTaskMessage _ _ _ _

lemma deliversTo_nudge (now : Timestamp) (task : Task) :
    (nudge u now task).Uses (Cmd.DeliversTo task.assignee) := by
  refine .bind (.call trivial) fun _ => ?_
  refine .bind (.call rfl) fun _ => ?_
  exact .bind (.call trivial) fun _ => .call rfl

lemma announced_nudge (now : Timestamp) (task : Task) (s : Sim) :
    (((nudge u now task).run (Sim.exec u) s).2.ctx.mailbox task.assignee).Announced := by
  unfold nudge
  simp only [Prog.run_bind, Prog.run_call]
  apply announced_schedule
  rw [mailbox_sim_of_quiet (c := .recordDispatch ..) rfl]
  exact unread_enqueue (taskAwareMessage u _ "reconciler" task.assignee _) _

lemma respects_notifyCreatorOfTerminalStatus (task : Task) :
    (notifyCreatorOfTerminalStatus u task).Respects (Sim.exec u) AllTended := by
  unfold notifyCreatorOfTerminalStatus
  split
  · exact .ret _
  · rename_i creator hcreator
    refine respects_of_announced (x := creator) ?_ fun s => ?_
    · refine .bind (.call trivial) fun _ => ?_
      exact .bind (.call rfl) fun _ => .call rfl
    · simp only [Prog.run_bind, Prog.run_call]
      apply announced_schedule
      exact unread_enqueue (taskAwareMessage u _ task.assignee creator _) _

lemma unread_ensureTaskWakeMessage (task : Task) (sender : String) (s : Sim) :
    (((ensureTaskWakeMessage u task sender).run (Sim.exec u) s).2.ctx.mailbox
      task.assignee).unread ≠ [] := by
  unfold ensureTaskWakeMessage
  rw [run_hasTaskMessage]
  split
  · rename_i hunread
    -- An unread message of the task is itself the reason not to send another.
    intro hempty
    have hinbox : s.ctx.queue.inbox task.assignee = [] := hempty
    simp [MessageQueue.hasTaskMessage, hinbox] at hunread
  · rw [Prog.run_bind]
    exact unread_enqueueTaskMessage _ _ _ _

lemma deliversTo_ensureTaskWakeMessage (task : Task) (sender : String) :
    (ensureTaskWakeMessage u task sender).Uses (Cmd.DeliversTo task.assignee) := by
  refine .bind (.call trivial) fun unread => ?_
  split
  · exact .ret _
  · exact .bind (deliversTo_enqueueTaskMessage _ _ _) fun _ => .ret _

/-! ## Purges and readings -/

namespace Mailbox

def settle (b : Mailbox) : Mailbox :=
  if b.unread = [] then { b with wakePending := false } else b

lemma backed_settle (b : Mailbox) : b.settle.Backed := by
  unfold settle Backed
  split
  · intro h
    cases h
  · intro _
    assumption

lemma tended_settle {b b' : Mailbox} (h : b.Attended → b'.Attended) : b.Tended b'.settle := by
  refine ⟨fun hb => ?_, fun _ => b'.backed_settle⟩
  unfold settle
  split
  · rename_i hempty
    exact fun hne => absurd hempty hne
  · exact h hb

end Mailbox

lemma mailbox_cancelWakeIfDrained (x : String) (s : Sim) :
    ((cancelWakeIfDrained x).run (Sim.exec u) s).2.ctx.mailbox x = (s.ctx.mailbox x).settle := by
  unfold cancelWakeIfDrained
  rw [run_pendingCount]
  by_cases hempty : s.ctx.queue.inbox x = []
  · rw [if_pos (MessageQueue.pendingCount_eq_zero_iff.mpr hempty)]
    simp [Sim.exec, Sim.tick, Cmd.exec, HandlerCtx.mailbox, Mailbox.settle, hempty]
  · rw [if_neg fun h => hempty (MessageQueue.pendingCount_eq_zero_iff.mp h)]
    simp [Sim.tick, HandlerCtx.mailbox, Mailbox.settle, hempty]

lemma within_cancelWakeIfDrained (x : String) : (cancelWakeIfDrained x).Uses (Cmd.Within x) := by
  refine .bind (.call trivial) fun pending => ?_
  split
  · exact .call rfl
  · exact .ret _

lemma respects_of_settled (hp : p.Uses (Cmd.Within x))
    (hx : ∀ s, (s.ctx.mailbox x).Attended → ((p.run (Sim.exec u) s).2.ctx.mailbox x).Attended) :
    (p >>= fun _ => cancelWakeIfDrained x).Respects (Sim.exec u) AllTended := by
  intro s w
  by_cases hw : w = x
  · subst hw
    rw [Prog.run_bind, mailbox_cancelWakeIfDrained]
    exact Mailbox.tended_settle (hx s)
  · rw [mailbox_of_uses_within (hp.bind fun _ => within_cancelWakeIfDrained x) hw]
    exact ⟨id, id⟩

lemma attended_removeTaskMessages (taskId : String) (h : (s.ctx.mailbox x).Attended) :
    ((Sim.exec u (.removeTaskMessages x taskId) s).2.ctx.mailbox x).Attended := by
  simp only [Mailbox.Attended, HandlerCtx.mailbox] at h
  simp only [Mailbox.Attended, HandlerCtx.mailbox, Sim.exec, Sim.tick, Cmd.exec,
    MessageQueue.inbox_removeTaskMessages]
  intro hunread
  refine h fun hempty => hunread ?_
  simp [hempty]

/-- Purging the messages of a task. -/
theorem respects_purgeTaskMessages (assignee taskId : String) :
    (purgeTaskMessages assignee taskId).Respects (Sim.exec u) AllTended := by
  unfold purgeTaskMessages
  refine respects_of_settled (.call rfl) fun s hs => ?_
  rw [Prog.run_call]
  exact attended_removeTaskMessages taskId hs

lemma wakePending_exec_of_deliversTo (h : c.DeliversTo x)
    (hpending : (s.ctx.mailbox w).wakePending = true) :
    ((Sim.exec u c s).2.ctx.mailbox w).wakePending = true := by
  have hbefore : s.ctx.wakeScheduler.isPending w = true := hpending
  by_cases hquiet : c.Quiet
  · rw [mailbox_sim_of_quiet hquiet]
    exact hpending
  · cases c with
    | enqueue msg => simp [Sim.exec, Sim.tick, Cmd.exec, HandlerCtx.mailbox, hbefore]
    | removeTaskMessages workspace taskId =>
      simp [Sim.exec, Sim.tick, Cmd.exec, HandlerCtx.mailbox, hbefore]
    | schedule workspace sender => simp [Sim.exec, Cmd.exec, HandlerCtx.mailbox, hbefore]
    | dequeue workspace limit sender => exact h.elim
    | cancelWake workspace => exact h.elim
    | advanceAttempt workspace result => exact h.elim
    | postpone workspace => exact h.elim
    | _ => exact absurd rfl hquiet

lemma run_runnableByAssignee (workspace : String) (f : List Task → Program α) (s : Sim) :
    (perform (.runnableByAssignee workspace) >>= f).run (Sim.exec u) s =
      (f (s.ctx.taskStore.runnableByAssignee workspace (s.tape 0).now)).run (Sim.exec u) s.tick :=
  rfl

lemma deliversTo_refillTask (h : task.assignee = workspace) :
    (refillTask u workspace sender task).Uses (Cmd.DeliversTo workspace) := by
  refine .bind (.call trivial) fun unread => ?_
  split
  · exact .ret _
  · exact .bind (h ▸ deliversTo_enqueueTaskMessage _ _ _) fun _ => .ret _

lemma refill_preserves {P : Sim → Prop}
    (hstep : ∀ c s, Cmd.DeliversTo workspace c → P s → P (Sim.exec u c s).2) (hs : P s) :
    P ((refillRunnableTaskMessages u workspace sender).run (Sim.exec u) s).2 := by
  have htasks : ∀ task ∈ s.ctx.taskStore.runnableByAssignee workspace (s.tape 0).now,
      task.assignee = workspace := by
    intro task hmem
    have hrunnable := (List.mem_filter.mp hmem).2
    by_contra hne
    simp [hne] at hrunnable
  have huses := Prog.Uses.mapM (R := Cmd.Result) fun task hmem =>
    deliversTo_refillTask (u := u) sender (htasks task hmem)
  have hrest := huses.bind fun counts => Prog.Uses.ret counts.sum
  have hlisted : P s.tick := hstep (.runnableByAssignee workspace) s trivial hs
  unfold refillRunnableTaskMessages
  rw [run_runnableByAssignee]
  exact Prog.Uses.preserves hstep hrest s.tick hlisted

lemma mailbox_refill_of_ne (hw : w ≠ workspace) (s : Sim) :
    ((refillRunnableTaskMessages u workspace sender).run (Sim.exec u) s).2.ctx.mailbox w =
      s.ctx.mailbox w :=
  refill_preserves (P := fun t => t.ctx.mailbox w = s.ctx.mailbox w) sender
    (fun _ _ hc ht => (mailbox_exec_of_within hc.within hw).trans ht) rfl

lemma wakePending_refill (h : (s.ctx.mailbox w).wakePending = true) :
    (((refillRunnableTaskMessages u workspace sender).run (Sim.exec u) s).2.ctx.mailbox
      w).wakePending = true :=
  refill_preserves (P := fun t => (t.ctx.mailbox w).wakePending = true) sender
    (fun _ _ hc ht => wakePending_exec_of_deliversTo hc ht) h

lemma run_wakeState (x : String) (f : Option PendingWake → Program α) (s : Sim) :
    (perform (.wakeState x) >>= f).run (Sim.exec u) s =
      (f (s.ctx.wakeScheduler.get x)).run (Sim.exec u) s.tick :=
  rfl

lemma refillBeforeRead_cases (x : String) (s : Sim) :
    ((refillBeforeRead u x).run (Sim.exec u) s).2.ctx = s.ctx ∨
      ∃ sender, (s.ctx.mailbox x).wakePending = true ∧
        ((refillBeforeRead u x).run (Sim.exec u) s).2 =
          ((refillRunnableTaskMessages u x sender).run (Sim.exec u) s.tick.tick).2 := by
  unfold refillBeforeRead
  rw [run_pendingCount]
  split
  · rw [run_wakeState]
    cases hwake : s.tick.ctx.wakeScheduler.get x with
    | none => exact .inl rfl
    | some wake =>
      refine .inr ⟨wake.sender, ?_, ?_⟩
      · have hget : s.ctx.wakeScheduler.get x = some wake := hwake
        simp [HandlerCtx.mailbox, WakeMap.isPending, hget]
      · simp only [Prog.run_bind, Prog.run_pure]
  · exact .inl rfl

lemma mailbox_refillBeforeRead_of_ne (hw : w ≠ x) (s : Sim) :
    ((refillBeforeRead u x).run (Sim.exec u) s).2.ctx.mailbox w = s.ctx.mailbox w := by
  rcases refillBeforeRead_cases (u := u) x s with hsame | ⟨sender, _, hrun⟩
  · rw [hsame]
  · rw [hrun]
    exact mailbox_refill_of_ne sender hw s.tick.tick

lemma attended_refillBeforeRead (h : (s.ctx.mailbox x).Attended) :
    (((refillBeforeRead u x).run (Sim.exec u) s).2.ctx.mailbox x).Attended := by
  rcases refillBeforeRead_cases (u := u) x s with hsame | ⟨sender, hpending, hrun⟩
  · rw [hsame]
    exact h
  · rw [hrun]
    exact fun _ => wakePending_refill (s := s.tick.tick) sender hpending

lemma attended_dequeue {limit : Nat} {sender : Option String} (h : (s.ctx.mailbox x).Attended) :
    ((Sim.exec u (.dequeue x limit sender) s).2.ctx.mailbox x).Attended := by
  intro hunread
  refine h fun hempty => hunread ?_
  have hinbox : s.ctx.queue.inbox x = [] := hempty
  have hkept : (MessageQueue.takeMessages sender limit []).2 = [] := by cases limit <;> rfl
  simp [Sim.exec, Cmd.exec, HandlerCtx.mailbox, MessageQueue.inbox_dequeue, hinbox, hkept]

/-- Reading an inbox keeps every balance. -/
theorem respects_handleReadMessages (workspace : String) (payload : ReadMessagesPayload) :
    (handleReadMessages u workspace payload).Respects (Sim.exec u) AllTended := by
  refine Prog.Respects.attempt fun _ _ s w => ?_
  simp only [Prog.run_bind, Prog.run_call, Prog.run_pure]
  by_cases hw : w = workspace
  · subst hw
    rw [mailbox_cancelWakeIfDrained]
    refine Mailbox.tended_settle fun hattended => ?_
    rw [mailbox_of_uses_quiet (quiet_touchNow w)]
    exact attended_dequeue (attended_refillBeforeRead hattended)
  · rw [mailbox_of_uses_within (within_cancelWakeIfDrained workspace) hw,
      mailbox_of_uses_quiet (quiet_touchNow workspace)]
    rw [mailbox_sim_of_within (c := .dequeue ..) rfl hw, mailbox_refillBeforeRead_of_ne hw]
    exact ⟨id, id⟩

/-! ## Wake passes -/

lemma mailbox_refillBeforeWake_of_ne (hw : w ≠ wake.workspace) (s : Sim) :
    ((refillBeforeWake u wake).run (Sim.exec u) s).2.ctx.mailbox w = s.ctx.mailbox w := by
  unfold refillBeforeWake
  rw [run_pendingCount]
  split
  · simp only [Prog.run_bind, Prog.run_call]
    rw [mailbox_sim_of_quiet (c := .unlockWakes) rfl, mailbox_refill_of_ne _ hw,
      mailbox_sim_of_quiet (c := .lockWakes) rfl]
    rfl
  · rfl

lemma within_attemptWake (wake : PendingWake) :
    (attemptWake wake).Uses (Cmd.Within wake.workspace) := by
  refine .bind (.call trivial) fun pending => ?_
  split
  · exact .bind (.call rfl) fun _ => .ret _
  · refine .bind (.call trivial) fun live => ?_
    split
    · refine .bind (.call trivial) fun idle => ?_
      split
      · refine .bind (.call trivial) fun _ => ?_
        exact .bind (.call rfl) fun _ => .ret _
      · exact .bind (.call rfl) fun _ => .ret _
    · refine .bind (.call trivial) fun ensured => ?_
      split
      · exact .bind (.call rfl) fun _ => .ret _
      · exact .bind (.call rfl) fun _ => .ret _

lemma mailbox_processWake_of_ne (hw : w ≠ wake.workspace) (s : Sim) :
    ((processWake u wake).run (Sim.exec u) s).2.ctx.mailbox w = s.ctx.mailbox w := by
  unfold processWake
  rw [Prog.run_bind, mailbox_of_uses_within (within_attemptWake wake) hw,
    mailbox_refillBeforeWake_of_ne hw]

lemma keepsInboxes_wakeWhenIdle (wake : PendingWake) :
    (wakeWhenIdle wake).Uses Cmd.KeepsInboxes := by
  refine .bind (.call trivial) fun idle => ?_
  split
  · refine .bind (.call trivial) fun _ => ?_
    exact .bind (.call trivial) fun _ => .ret _
  · exact .bind (.call trivial) fun _ => .ret _

lemma keepsInboxes_ensureBeforeWake (wake : PendingWake) :
    (ensureBeforeWake wake).Uses Cmd.KeepsInboxes := by
  refine .bind (.call trivial) fun ensured => ?_
  split
  · exact .bind (.call trivial) fun _ => .ret _
  · exact .bind (.call trivial) fun _ => .ret _

lemma backed_attemptWake (wake : PendingWake) (s : Sim) :
    (((attemptWake wake).run (Sim.exec u) s).2.ctx.mailbox wake.workspace).Backed := by
  unfold attemptWake
  rw [run_pendingCount]
  by_cases hempty : s.ctx.queue.inbox wake.workspace = []
  · rw [if_pos (MessageQueue.pendingCount_eq_zero_iff.mpr hempty)]
    intro hpending
    simp [Sim.exec, Sim.tick, Cmd.exec, HandlerCtx.mailbox] at hpending
  · rw [if_neg fun h => hempty (MessageQueue.pendingCount_eq_zero_iff.mp h)]
    intro _
    rw [unread_of_uses_keepsInboxes]
    · exact hempty
    · refine .bind (.call trivial) fun live => ?_
      split
      · exact keepsInboxes_wakeWhenIdle wake
      · exact keepsInboxes_ensureBeforeWake wake

/-- After a wake pass for one workspace, its pending wake has unread mail. -/
theorem backed_processWake (wake : PendingWake) (s : Sim) :
    (((processWake u wake).run (Sim.exec u) s).2.ctx.mailbox wake.workspace).Backed := by
  unfold processWake
  rw [Prog.run_bind]
  exact backed_attemptWake wake _

lemma run_readyWakes (f : List PendingWake → Program α) (s : Sim) :
    (perform .readyWakes >>= f).run (Sim.exec u) s =
      (f (s.ctx.wakeScheduler.ready (s.tape 0).now)).run (Sim.exec u) s.tick :=
  rfl

lemma backed_processDue (wake : PendingWake) :
    Prog.Triple (Sim.exec u) (fun t => ∀ w, (t.ctx.mailbox w).Backed) (processDue u wake)
      fun _ t => ∀ w, (t.ctx.mailbox w).Backed := by
  intro t ht w
  unfold processDue
  rw [Prog.run_bind]
  by_cases hw : w = wake.workspace
  · rw [hw]
    exact backed_processWake wake t
  · exact (mailbox_processWake_of_ne (u := u) hw t).symm ▸ ht w

lemma mailbox_processDue_of_ne (hw : w ≠ wake.workspace) {b : Mailbox} :
    Prog.Triple (Sim.exec u) (fun t => t.ctx.mailbox w = b) (processDue u wake)
      fun _ t => t.ctx.mailbox w = b := by
  intro t ht
  unfold processDue
  rw [Prog.run_bind]
  exact (mailbox_processWake_of_ne hw t).trans ht

lemma backed_process (h : ∀ w, (s.ctx.mailbox w).Backed) (w : String) :
    (((process u).run (Sim.exec u) s).2.ctx.mailbox w).Backed := by
  have hloop := Prog.Triple.mapM (P := fun t : Sim => ∀ w, (t.ctx.mailbox w).Backed)
    fun wake (_ : wake ∈ s.ctx.wakeScheduler.ready (s.tape 0).now) =>
      backed_processDue (u := u) wake
  unfold process
  rw [run_readyWakes]
  exact hloop s.tick h w

lemma mailbox_process_of_not_pending (h : (s.ctx.mailbox w).wakePending = false) :
    ((process u).run (Sim.exec u) s).2.ctx.mailbox w = s.ctx.mailbox w := by
  have hready : ∀ wake ∈ s.ctx.wakeScheduler.ready (s.tape 0).now, w ≠ wake.workspace := by
    intro wake hmem heq
    have hget := KeyedMap.mem_values_iff.mp (List.mem_of_mem_filter hmem)
    have hnone : (s.ctx.wakeScheduler.get w).isSome = false := h
    rw [heq, hget] at hnone
    cases hnone
  have hloop := Prog.Triple.mapM (P := fun t : Sim => t.ctx.mailbox w = s.ctx.mailbox w)
    fun wake (hmem : wake ∈ s.ctx.wakeScheduler.ready (s.tape 0).now) =>
      mailbox_processDue_of_ne (u := u) (hready wake hmem)
  unfold process
  rw [run_readyWakes]
  exact hloop s.tick rfl

end Ax.Daemon
