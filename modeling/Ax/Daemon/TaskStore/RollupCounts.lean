import Ax.Daemon.TaskStore.RollupViews

/-!
# The counts of a rollup

Every operation that changes the status of a task refreshes the task's parent
before it returns, also the recovery, which resets many tasks and refreshes
their parents afterwards.  So the counts of every rollup are those of the
current child records.

Main results:

- Theorem `rollup_counts_correct`: in every run from an empty store the stored
  counts are those of the current child statuses.
-/

namespace Ax.Daemon

open TaskStore

structure RollupCounts where
  total : Int
  pending : Int
  inProgress : Int
  blocked : Int
  completed : Int
  failed : Int
  cancelled : Int
  terminal : Int
  active : Int
  allTerminal : Bool
deriving DecidableEq

def countsOf (r : TaskRollup) : RollupCounts where
  total := r.totalChildren
  pending := r.pendingChildren
  inProgress := r.inProgressChildren
  blocked := r.blockedChildren
  completed := r.completedChildren
  failed := r.failedChildren
  cancelled := r.cancelledChildren
  terminal := r.terminalChildren
  active := r.activeChildren
  allTerminal := r.allChildrenTerminal

def countStatuses (total : Int) (statuses : List TaskStatus) : RollupCounts where
  total := total
  pending := statuses.countP (· == .pending)
  inProgress := statuses.countP (· == .inProgress)
  blocked := statuses.countP (· == .blocked)
  completed := statuses.countP (· == .completed)
  failed := statuses.countP (· == .failed)
  cancelled := statuses.countP (· == .cancelled)
  terminal := statuses.countP isTerminalStatus
  active := statuses.countP isActiveStatus
  allTerminal := decide (total > 0) && decide ((statuses.countP isTerminalStatus : Int) = total)

lemma countsOf_summarize (p : Task) (m : TaskMap) :
    (summarizeTaskRollup p m).map countsOf =
      if p.childTaskIds.isEmpty then none
      else some (countStatuses p.childTaskIds.length ((childRecords m p).map Task.status)) := by
  have hcount : ∀ (counter : TaskRollup → Int) (kind : TaskStatus → Bool),
      counter (emptyRollup p) = 0 →
      (∀ rollup child, counter (tallyChild rollup child) =
        counter rollup + if kind child.status then 1 else 0) →
      counter ((childRecords m p).foldl tallyChild (emptyRollup p)) =
        ((childRecords m p).map Task.status).countP kind := by
    intro counter kind hzero hstep
    rw [foldl_tallyChild_count counter kind hstep, hzero, Int.zero_add]
  have htotal := foldl_tallyChild_total (childRecords m p) (emptyRollup p)
  have hterminal := hcount TaskRollup.terminalChildren isTerminalStatus rfl (by
    intro rollup child
    unfold tallyChild tallyStatus
    cases child.status <;> simp [isTerminalStatus])
  have hactive := hcount TaskRollup.activeChildren isActiveStatus rfl (by
    intro rollup child
    unfold tallyChild tallyStatus
    cases child.status <;> simp [isActiveStatus])
  rw [summarizeTaskRollup_eq]
  split
  · rfl
  · rw [Option.map_some, Option.some.injEq]
    simp only [countsOf, countStatuses, concludeRollup, RollupCounts.mk.injEq]
    refine ⟨htotal, ?_, ?_, ?_, ?_, ?_, ?_, hterminal, hactive, ?_⟩
    · exact hcount TaskRollup.pendingChildren _ rfl fun rollup child => by
        unfold tallyChild tallyStatus
        cases child.status <;> simp
    · exact hcount TaskRollup.inProgressChildren _ rfl fun rollup child => by
        unfold tallyChild tallyStatus
        cases child.status <;> simp
    · exact hcount TaskRollup.blockedChildren _ rfl fun rollup child => by
        unfold tallyChild tallyStatus
        cases child.status <;> simp
    · exact hcount TaskRollup.completedChildren _ rfl fun rollup child => by
        unfold tallyChild tallyStatus
        cases child.status <;> simp
    · exact hcount TaskRollup.failedChildren _ rfl fun rollup child => by
        unfold tallyChild tallyStatus
        cases child.status <;> simp
    · exact hcount TaskRollup.cancelledChildren _ rfl fun rollup child => by
        unfold tallyChild tallyStatus
        cases child.status <;> simp
    · rw [htotal, hterminal]
      rfl

def countsView : RollupView RollupCounts TaskStatus where
  observe := countsOf
  ofChild := Task.status
  determined p m m' hsame := by
    rw [countsOf_summarize, countsOf_summarize, hsame]

lemma countsOf_summarize_congr {p p' : Task} (m : TaskMap)
    (hchildren : p'.childTaskIds = p.childTaskIds) :
    (summarizeTaskRollup p' m).map countsOf = (summarizeTaskRollup p m).map countsOf := by
  rw [countsOf_summarize, countsOf_summarize, childRecords, childRecords, hchildren]

lemma countsView_ignoresRefresh : IgnoresRefresh countsView :=
  ⟨fun m p now => refreshRollup_status m p now,
    fun now p childId => by
      show (adoptChild now p childId).status = p.status
      unfold adoptChild
      split <;> rfl⟩

lemma Touch.status_eq_of_quiet {c : StoreCall} {t t' : Task} (h : Touch c t t')
    (hquiet : c.isQuiet = true) : t'.status = t.status := by
  cases h with
  | updated hop => simp [StoreCall.isQuiet, hop] at hquiet
  | cancelled hop => simp [StoreCall.isQuiet, hop] at hquiet
  | removed => rfl
  | retried hop => simp [StoreCall.isQuiet, hop] at hquiet
  | recovered hop => simp [StoreCall.isQuiet, hop] at hquiet
  | dispatched => rfl
  | active => rfl

lemma countsCurrent_storeStep {s s' : TaskStore} {c : StoreCall} (hstep : StoreStep s c s')
    (hlinked : Linked s.inner) (h : CurrentExcept countsView (fun _ => False) s.inner) :
    CurrentExcept countsView (fun _ => False) s'.inner := by
  obtain ⟨hfresh, rfl⟩ := hstep
  refine CurrentExcept.effect (StoreCall.effect hfresh) hlinked h ?_ ?_ ?_
    (Or.inl countsView_ignoresRefresh)
  · exact fun t t' _ htouch => countsOf_summarize_congr _ htouch.childTaskIds_eq
  · intro m t _
    refine countsOf_summarize_congr m ?_
    have heq := congrArg Task.childTaskIds (updateFrame_recoverRecord c.env.unicode c.env.now t)
    exact heq
  · exact fun hquiet t t' _ htouch => Or.inl (htouch.status_eq_of_quiet hquiet)

lemma childless_recordInvariant :
    RecordInvariant (fun t => t.childTaskIds = [] → t.rollup = none) where
  created now id input := fun _ => rfl
  refresh all parent now _ := by
    rw [refreshRollup_frame]
    intro hchildren
    have hempty : parent.childTaskIds = [] := hchildren
    simp [summarizeTaskRollup, hempty]
  adopt now parent childId hparent := by
    unfold adoptChild
    split
    · exact hparent
    · intro hchildren
      exact absurd hchildren (List.append_ne_nil_of_right_ne_nil _ (List.cons_ne_nil _ _))

structure CountsAgree (r : TaskRollup) (statuses : List TaskStatus) : Prop where
  total : r.totalChildren = statuses.length
  pending : r.pendingChildren = statuses.count .pending
  inProgress : r.inProgressChildren = statuses.count .inProgress
  blocked : r.blockedChildren = statuses.count .blocked
  completed : r.completedChildren = statuses.count .completed
  failed : r.failedChildren = statuses.count .failed
  cancelled : r.cancelledChildren = statuses.count .cancelled
  terminal : r.terminalChildren = statuses.countP isTerminalStatus
  active : r.activeChildren = statuses.countP isActiveStatus
  allTerminal : r.allChildrenTerminal = statuses.all isTerminalStatus

lemma countsAgree_of_countsOf {r : TaskRollup} {statuses : List TaskStatus} (hne : statuses ≠ [])
    (h : countsOf r = countStatuses statuses.length statuses) : CountsAgree r statuses := by
  have hpos : 0 < statuses.length := List.length_pos_iff.mpr hne
  have hall : (countStatuses statuses.length statuses).allTerminal =
      statuses.all isTerminalStatus := by
    have hiff : (statuses.countP isTerminalStatus : Int) = statuses.length ↔
        statuses.all isTerminalStatus = true := by
      rw [Int.natCast_inj, List.countP_eq_length, List.all_eq_true]
    rw [Bool.eq_iff_iff, ← hiff]
    simp [countStatuses, hpos]
  exact
    { total := congrArg RollupCounts.total h
      pending := congrArg RollupCounts.pending h
      inProgress := congrArg RollupCounts.inProgress h
      blocked := congrArg RollupCounts.blocked h
      completed := congrArg RollupCounts.completed h
      failed := congrArg RollupCounts.failed h
      cancelled := congrArg RollupCounts.cancelled h
      terminal := congrArg RollupCounts.terminal h
      active := congrArg RollupCounts.active h
      allTerminal := (congrArg RollupCounts.allTerminal h).trans hall }

/-- In every state of a run from an empty store, the children that a task lists
are all stored; a task with children that is not removed has a rollup whose
counts are those of the current statuses of its children; and a task without
children has no rollup. -/
theorem rollup_counts_correct {s s' : TaskStore} {calls : List StoreCall}
    (hempty : s.inner = KeyedMap.empty) (hrun : Exec StoreStep s calls s') {id : String}
    {t : Task} (hget : s'.inner.get id = some t) :
    (childRecords s'.inner t).map Task.id = t.childTaskIds ∧
    (t.removedAt = none → t.childTaskIds ≠ [] →
      ∃ r, t.rollup = some r ∧
        CountsAgree r ((childRecords s'.inner t).map Task.status)) ∧
    (t.childTaskIds = [] → t.rollup = none) := by
  have hlinked := linked_of_run hempty hrun
  have hids := hlinked.childRecords_ids hget
  refine ⟨hids, ?_, ?_⟩
  · intro hlive hchildren
    have hinvariant : Linked s'.inner ∧
        CurrentExcept countsView (fun _ => False) s'.inner := by
      refine Exec.invariant (P := fun s => Linked s.inner ∧
        CurrentExcept countsView (fun _ => False) s.inner) ?_ hrun ?_
      · exact fun hstep h => ⟨h.1.storeStep hstep, countsCurrent_storeStep hstep h.1 h.2⟩
      · rw [hempty]
        refine ⟨Linked.empty, ?_⟩
        intro id p hp
        simp at hp
    have hcurrent : t.rollup.map countsOf = (summarizeTaskRollup t s'.inner).map countsOf :=
      hinvariant.2 id t hget hlive not_false
    have hlength : ((childRecords s'.inner t).map Task.status).length =
        t.childTaskIds.length := by
      rw [← hids, List.length_map, List.length_map]
    rw [countsOf_summarize, if_neg (by simpa using hchildren)] at hcurrent
    obtain ⟨r, hr, hcounts⟩ := Option.map_eq_some_iff.mp hcurrent
    refine ⟨r, hr, countsAgree_of_countsOf ?_ (hlength ▸ hcounts)⟩
    intro hnil
    rw [hnil] at hlength
    exact hchildren (List.length_eq_zero_iff.mp hlength.symm)
  · have hall : AllRecords (fun t => t.childTaskIds = [] → t.rollup = none) s'.inner := by
      refine Exec.invariant (P := fun s => AllRecords
        (fun t => t.childTaskIds = [] → t.rollup = none) s.inner) ?_ hrun ?_
      · intro s c s' hstep h
        refine childless_recordInvariant.storeStep hstep ?_ h
        intro t t' _ htouch ht
        rw [htouch.childTaskIds_eq, htouch.rollup_eq]
        exact ht
      · rw [hempty]
        intro id p hp
        simp at hp
    exact hall id t hget

def cancelledChildCalls : List StoreCall :=
  [callAt 0 (.create "p" (plainInput "lead" "owner" "")),
    callAt 1 (.create "c" (plainInput "worker" "lead" "p")),
    callAt 2 (.cancel "c" "" "lead" none)]

/-- The theorem at the parent of that run. -/
theorem rollup_counts_example :
    ∃ t, (applyAll inMemory cancelledChildCalls).inner.get "p" = some t ∧
      ∃ r, t.rollup = some r ∧ CountsAgree r
        ((childRecords (applyAll inMemory cancelledChildCalls).inner t).map Task.status) := by
  have hrun : Exec StoreStep inMemory cancelledChildCalls _ := exec_applyAll (by decide)
  have hget : (applyAll inMemory cancelledChildCalls).inner.get "p" = some _ :=
    (Option.some_get (by decide)).symm
  exact ⟨_, hget, (rollup_counts_correct rfl hrun hget).2.1 (by decide) (by decide)⟩

end Ax.Daemon
