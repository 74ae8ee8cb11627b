import Ax.Daemon.QueueLedger
import Ax.Daemon.Dispatches

/-!
# At most one dispatch of a task

In a sequential run of the daemon every inbox holds at most one dispatch or reminder of each
task, in every state that is passed.  The contract of the jobs says in which states a dispatch
is enqueued; the rest is what a single command does to an inbox.

Main results:

- Theorem `at_most_one_dispatch`: inboxes over any run.
-/

namespace Ax.Daemon

variable {u : Unicode}

/-! ## Inboxes after a command -/

def Cmd.delivers (r : Reading) (w : String) : Cmd → List Message
  | .enqueue msg => if w = msg.recipient then [MessageQueue.stamp r.now r.uuid msg] else []
  | _ => []

lemma MessageQueue.capped_sublist (maxSize : Nat) (messages : List Message) :
    (MessageQueue.capped maxSize messages).Sublist messages := by
  unfold capped
  split
  · exact List.drop_sublist _ _
  · exact List.Sublist.refl _

lemma inbox_exec_sublist (r : Reading) (d : HandlerCtx) (c : Cmd) (w : String) :
    ((c.exec u r d).2.queue.inbox w).Sublist (d.queue.inbox w ++ c.delivers r w) := by
  by_cases hkeeps : c.KeepsInboxes
  · rw [inbox_exec_of_keepsInboxes hkeeps]
    exact List.sublist_append_left _ _
  cases c with
  | enqueue msg =>
    simp only [Cmd.exec, Cmd.delivers]
    rw [MessageQueue.inbox_enqueue]
    by_cases hw : w = msg.recipient
    · rw [if_pos hw, if_pos hw, hw]
      exact MessageQueue.capped_sublist _ _
    · rw [if_neg hw, if_neg hw, List.append_nil]
  | dequeue workspace limit sender =>
    simp only [Cmd.exec, Cmd.delivers, List.append_nil]
    rw [MessageQueue.inbox_dequeue]
    split
    · rename_i hw
      rw [hw, takeMessages_eq]
      exact takeFirst_snd_sublist _ _
    · exact List.Sublist.refl _
  | removeTaskMessages workspace taskId =>
    simp only [Cmd.exec, Cmd.delivers, List.append_nil]
    rw [MessageQueue.inbox_removeTaskMessages]
    split
    · rename_i hw
      rw [hw.1]
      exact List.filter_sublist
    · exact List.Sublist.refl _
  | _ => exact absurd trivial hkeeps

variable {c : Cmd} {s : Sim}

lemma mem_inbox_exec {r : Reading} {d : HandlerCtx} {w : String} {msg : Message}
    (h : msg ∈ (c.exec u r d).2.queue.inbox w) :
    msg ∈ d.queue.inbox w ∨
      ∃ sent, c = .enqueue sent ∧ w = sent.recipient ∧
        msg = MessageQueue.stamp r.now r.uuid sent := by
  rcases List.mem_append.mp ((inbox_exec_sublist r d c w).subset h) with hold | hnew
  · exact .inl hold
  · cases c with
    | enqueue sent =>
      simp only [Cmd.delivers] at hnew
      split at hnew
      · rename_i hw
        exact .inr ⟨sent, rfl, hw, List.mem_singleton.mp hnew⟩
      · cases hnew
    | _ => cases hnew

/-! ## Sound states -/

lemma stored_exec (hnamed : c.Named u s) {id : String}
    (h : ∃ task, s.ctx.taskStore.inner.get id = some task) :
    ∃ task, (Sim.exec u c s).2.ctx.taskStore.inner.get id = some task := by
  obtain ⟨task, hget⟩ := h
  rcases storeStep_exec hnamed.fresh with hsame | ⟨call, _, hstep⟩
  · refine ⟨task, ?_⟩
    simp only [Sim.exec, hsame]
    exact hget
  · obtain ⟨task', hget', _⟩ := assignee_recordRelation.storeStep hstep id task hget
    exact ⟨task', hget'⟩

lemma HandlerCtx.Sound.exec (h : s.ctx.Sound) (hnamed : c.Named u s) (hc : c.Sanctioned s) :
    (Sim.exec u c s).2.ctx.Sound where
  linked := linkable_exec hnamed h.linked
  known w msg hmem hdispatch := by
    refine stored_exec hnamed ?_
    rcases mem_inbox_exec hmem with hold | ⟨sent, rfl, _, rfl⟩
    · exact h.known w msg hold hdispatch
    · obtain ⟨task, hget, _⟩ := (hc.1 hdispatch).1
      exact ⟨task, hget⟩

/-! ## Sequential runs -/

structure Stint where
  job : Job
  tape : Nat → Reading

namespace Stint

def Step (u : Unicode) (d : HandlerCtx) (e : Stint) (d' : HandlerCtx) : Prop :=
  d' = e.job.result u e.tape d

def passed (u : Unicode) (e : Stint) (d : HandlerCtx) : List HandlerCtx :=
  ((e.job.program u).passed (Sim.exec u) ⟨d, e.tape⟩).map Sim.ctx

def commands (u : Unicode) (e : Stint) (d : HandlerCtx) : List Cmd :=
  (e.job.program u).commands (Sim.exec u) ⟨d, e.tape⟩

/-- The generator gives new tasks fresh UUIDs. -/
def Named (u : Unicode) (d : HandlerCtx) (e : Stint) : Prop :=
  (e.job.program u).Issues (Sim.exec u) (fun s c => c.Named u s) ⟨d, e.tape⟩

lemma issues {e : Stint} {d : HandlerCtx} (hsound : d.Sound) (hnamed : e.Named u d) :
    (e.job.program u).Issues (Sim.exec u)
      (fun s c => s.ctx.Sound ∧ c.Named u s ∧ c.Sanctioned s) ⟨d, e.tape⟩ :=
  (honest_job (P := fun _ => True) e.job).issues (I := fun s => s.ctx.Sound)
    (fun _ _ hs hc => ⟨hs, hc⟩) (fun _ _ hs hnamed hc => hs.exec hnamed hc) trivial hsound hnamed

section Invariant

variable {I : HandlerCtx → Prop} {e : Stint} {d : HandlerCtx}
  (hstep : ∀ (s : Sim) (c : Cmd), s.ctx.Sound → c.Named u s → c.Sanctioned s → I s.ctx →
    I (Sim.exec u c s).2.ctx)
include hstep

lemma forall_passed (hsound : d.Sound) (hnamed : e.Named u d) (hd : I d) :
    ∀ t ∈ e.passed u d, I t := by
  intro t ht
  obtain ⟨s, hs, rfl⟩ := List.mem_map.mp ht
  refine (issues hsound hnamed).passes (I := fun s => I s.ctx) ?_ hd s hs
  exact fun s c hc hs => hstep s c hc.1 hc.2.1 hc.2.2 hs

lemma after (hsound : d.Sound) (hnamed : e.Named u d) (hd : I d) {d' : HandlerCtx}
    (h : Step u d e d') : I d' := by
  rw [h]
  refine (issues hsound hnamed).invariant (I := fun s => I s.ctx) ?_ hd
  exact fun s c hc hs => hstep s c hc.1 hc.2.1 hc.2.2 hs

lemma eachState (hsound : d.Sound) (hd : I d) {stints : List Stint}
    (hnamed : Exec.EachStep (Step u) (Named u) d stints) :
    Exec.EachState (Step u) (fun d => d.Sound ∧ I d) d stints := by
  refine Exec.eachState_of_eachStep (fun d e d' h hd hnamed => ⟨?_, ?_⟩) ⟨hsound, hd⟩ hnamed
  · exact after (fun _ _ hs hnamed hc _ => hs.exec hnamed hc) hd.1 hnamed hd.1 h
  · exact after hstep hd.1 hnamed hd.2 h

end Invariant
end Stint

/-! ## At most one dispatch -/

def isDispatchOf (id : String) (msg : Message) : Bool :=
  isDispatch msg && msg.taskId = id

def HandlerCtx.Unique (d : HandlerCtx) : Prop :=
  ∀ w id, (d.queue.inbox w).countP (isDispatchOf id) ≤ 1

lemma HandlerCtx.Unique.exec (h : s.ctx.Unique) (hc : c.Sanctioned s) :
    (Sim.exec u c s).2.ctx.Unique := by
  intro w id
  have hsub : ((Sim.exec u c s).2.ctx.queue.inbox w).countP (isDispatchOf id) ≤
      (s.ctx.queue.inbox w ++ c.delivers (s.tape 0) w).countP (isDispatchOf id) :=
    (inbox_exec_sublist (s.tape 0) s.ctx c w).countP_le
  rw [List.countP_append] at hsub
  refine hsub.trans ?_
  -- Either nothing of the task is delivered, or nothing of it was there.
  by_cases hnew : (c.delivers (s.tape 0) w).countP (isDispatchOf id) = 0
  · rw [hnew]
    exact h w id
  · obtain ⟨msg, hmem, hmsg⟩ := List.countP_pos_iff.mp (Nat.pos_of_ne_zero hnew)
    cases c with
    | enqueue sent =>
      simp only [Cmd.delivers] at hmem ⊢
      by_cases hw : w = sent.recipient
      · rw [if_pos hw] at hmem ⊢
        obtain rfl := List.mem_singleton.mp hmem
        obtain ⟨hdispatch, hid⟩ := Bool.and_eq_true_iff.mp hmsg
        have hclear := (hc.1 hdispatch).2
        have hnone : (s.ctx.queue.inbox w).countP (isDispatchOf id) = 0 := by
          refine List.countP_eq_zero.mpr fun msg hold hmsg => ?_
          obtain ⟨hdispatch', hid'⟩ := Bool.and_eq_true_iff.mp hmsg
          refine hclear msg (hw ▸ hold) hdispatch' ?_
          rw [of_decide_eq_true hid', ← of_decide_eq_true hid]
          rfl
        rw [hnone, Nat.zero_add]
        exact List.countP_le_length
      · rw [if_neg hw] at hmem
        cases hmem
    | _ => cases hmem

/-- No duplicate dispatch.  In every sequential run of requests, wake passes and reconcile
passes, from a daemon whose stored tasks have UUIDs and whose unread dispatches are of stored
tasks and unique, every state passed has at most one dispatch or reminder of each task in each
inbox.  The id generator never repeats an id. -/
theorem at_most_one_dispatch {d : HandlerCtx} {stints : List Stint} (hsound : d.Sound)
    (hunique : d.Unique) (hnamed : Exec.EachStep (Stint.Step u) (Stint.Named u) d stints) :
    Exec.EachState (Stint.Step u) HandlerCtx.Unique d stints ∧
      Exec.EachStep (Stint.Step u) (fun d e => ∀ t ∈ e.passed u d, t.Unique) d stints := by
  have hkeeps : ∀ (s : Sim) (c : Cmd), s.ctx.Sound → c.Named u s → c.Sanctioned s →
      s.ctx.Unique → (Sim.exec u c s).2.ctx.Unique := fun _ _ _ _ hc hs => hs.exec hc
  have hstates := Stint.eachState hkeeps hsound hunique hnamed
  refine ⟨fun pre post t hsplit hexec => (hstates pre post t hsplit hexec).2, ?_⟩
  intro pre e post t hsplit hexec
  obtain ⟨hsound', hunique'⟩ := hstates pre (e :: post) t hsplit hexec
  exact Stint.forall_passed hkeeps hsound' (hnamed pre e post t hsplit hexec) hunique'

/-! ## A run -/

instance (u : Unicode) (s : Sim) (c : Cmd) : Decidable (c.Named u s) :=
  decidable_of_iff (((c.storeCall u (s.tape 0)).all fun call =>
      decide (call.Fresh s.ctx.taskStore)) = true ∧
      (c.isCreation = true → IsUuid (s.tape 0).uuid)) <| by
    simp only [Option.all_eq_true, decide_eq_true_eq]
    exact ⟨fun h => ⟨h.1, h.2⟩, fun h => ⟨h.fresh, h.uuid⟩⟩

instance (u : Unicode) (d : HandlerCtx) (e : Stint) : Decidable (e.Named u d) :=
  inferInstanceAs (Decidable (Prog.Issues ..))

lemma sound_newCtx : newCtx.Sound where
  linked id t hget := by
    simp only [newCtx, KeyedMap.get_empty] at hget
    cases hget
  known _ _ hmem := by cases hmem

lemma unique_newCtx : newCtx.Unique :=
  fun _ _ => Nat.zero_le 1

def calmly (job : Job) : Stint where
  job := job
  tape _ := calmReading

/-- `ann` starts a task of `bob`. -/
def startForBob : Request :=
  .startTask "ann" ⟨⟨"Tidy up", "", "bob", "", "", "", "", 0⟩, "Tidy up the shelf"⟩

/-- `ann` starts a task of `bob` and has it retried; then the passes run. -/
def startAndRetry : List Stint :=
  [calmly (.request startForBob),
    calmly (.request (.interveneTask "ann" ⟨calmReading.uuid, "retry", "", none⟩)),
    calmly .wakePass, calmly .nudgePass]

/-- The dispatches of `bob` stay unique. -/
theorem startAndRetry_unique :
    Exec.EachState (Stint.Step .ascii) HandlerCtx.Unique newCtx startAndRetry := by
  have hnamed : checkSteps (fun d e => some (e.job.result .ascii e.tape d))
      (fun d e => decide (e.Named .ascii d)) newCtx startAndRetry = true := by
    decide +kernel
  refine (at_most_one_dispatch sound_newCtx unique_newCtx ?_).1
  exact eachStep_of_checkSteps (fun _ _ _ h => congrArg some h.symm)
    (fun _ _ => of_decide_eq_true) hnamed

end Ax.Daemon
