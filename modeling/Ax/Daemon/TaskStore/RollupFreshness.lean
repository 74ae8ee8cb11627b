import Ax.Daemon.TaskStore.Lifecycle
import Ax.Daemon.TaskStore.RollupCounts

/-!
# The derived fields of a rollup

Two fields of a rollup depend on more than the children's statuses: whether the
parent still has to be reconciled depends on the parent's own status, and the
latest child update on the children's stamps.  Both also change by operations
that do not refresh the rollup: a parent's own ending, dispatch records and
heartbeats of children, and refreshes, which stamp the refreshed parent but do
not reach the parent's own parent.

Main results:

- Theorem `rollupsFresh_of_keepsFresh`: in a run from an empty store whose calls
  avoid these three cases the two fields are right in every state.
- Theorem `rollupsFresh_broken`: a parent that is cancelled after its last child
  ended is still reported as waiting for reconciliation.
-/

namespace Ax.Daemon

open TaskStore

def derivedOf (r : TaskRollup) : Bool × Option Timestamp :=
  (r.needsParentReconciliation, r.lastChildUpdateAt)

lemma derivedOf_summarize (p : Task) (m : TaskMap) :
    (summarizeTaskRollup p m).map derivedOf =
      if p.childTaskIds.isEmpty then none
      else some
        ((countStatuses p.childTaskIds.length ((childRecords m p).map Task.status)).allTerminal &&
            !isTerminalStatus p.status,
          ((childRecords m p).map Task.updatedAt).foldl latest none) := by
  have hcounts := countsOf_summarize p m
  rw [summarizeTaskRollup_eq] at hcounts ⊢
  split
  · rfl
  · rename_i hchildren
    rw [if_neg hchildren, if_neg hchildren, Option.map_some, Option.some.injEq] at hcounts
    rw [← hcounts, Option.map_some, Option.some.injEq, derivedOf, Prod.mk.injEq]
    exact ⟨rfl, foldl_tallyChild_latest (childRecords m p) (emptyRollup p)⟩

def derivedView : RollupView (Bool × Option Timestamp) (TaskStatus × Timestamp) where
  observe := derivedOf
  ofChild t := (t.status, t.updatedAt)
  determined p m m' hsame := by
    have hstatuses : (childRecords m p).map Task.status = (childRecords m' p).map Task.status := by
      have hfst := congrArg (List.map Prod.fst) hsame
      rwa [List.map_map, List.map_map] at hfst
    have hstamps : (childRecords m p).map Task.updatedAt =
        (childRecords m' p).map Task.updatedAt := by
      have hsnd := congrArg (List.map Prod.snd) hsame
      rwa [List.map_map, List.map_map] at hsnd
    rw [derivedOf_summarize, derivedOf_summarize, hstatuses, hstamps]

lemma allTerminal_eq_false {m : TaskMap} {p : Task}
    (h : ∃ child ∈ childRecords m p, isTerminalStatus child.status = false) :
    (countStatuses p.childTaskIds.length ((childRecords m p).map Task.status)).allTerminal =
      false := by
  obtain ⟨child, hmem, hopen⟩ := h
  have hlt : ((childRecords m p).map Task.status).countP isTerminalStatus <
      p.childTaskIds.length := by
    calc ((childRecords m p).map Task.status).countP isTerminalStatus
        < ((childRecords m p).map Task.status).length := by
          refine lt_of_le_of_ne List.countP_le_length fun heq => ?_
          have hall := List.countP_eq_length.mp heq child.status (List.mem_map_of_mem hmem)
          rw [hopen] at hall
          cases hall
      _ ≤ p.childTaskIds.length := by
          rw [List.length_map]
          exact List.length_filterMap_le _ _
  have hne : ¬ (((childRecords m p).map Task.status).countP isTerminalStatus : Int) =
      p.childTaskIds.length := by
    omega
  simp only [countStatuses, decide_eq_false hne, Bool.and_false]

lemma derivedOf_summarize_congr {p p' : Task} (m : TaskMap)
    (hchildren : p'.childTaskIds = p.childTaskIds)
    (hstatus : isTerminalStatus p'.status = isTerminalStatus p.status ∨ p.childTaskIds = [] ∨
      ∃ child ∈ childRecords m p, isTerminalStatus child.status = false) :
    (summarizeTaskRollup p' m).map derivedOf = (summarizeTaskRollup p m).map derivedOf := by
  have hrecords : childRecords m p' = childRecords m p := by
    rw [childRecords, childRecords, hchildren]
  rw [derivedOf_summarize, derivedOf_summarize, hrecords, hchildren]
  rcases hstatus with hsame | hnone | hopen
  · rw [hsame]
  · rw [hnone]
    rfl
  · rw [allTerminal_eq_false hopen]
    rfl

/-! ## Calls that keep the derived fields right -/

/-- The call is accepted and rewrites the stored task `t`. -/
def Rewrites (c : StoreCall) (m : TaskMap) (t : Task) : Prop :=
  m.get t.id = some t ∧ ∃ t', Touch c t t'

/-- `p` is the parent of `t` and is not removed. -/
def LiveParent (m : TaskMap) (t p : Task) : Prop :=
  t.parentTaskId ≠ "" ∧ m.get t.parentTaskId = some p ∧ p.removedAt = none

/-- The call is a cancellation of the open task `t` or asks to end it. -/
def EndsTask (c : StoreCall) (t : Task) : Prop :=
  isTerminalStatus t.status = false ∧
    ((∃ reason workspace expected, c.op = .cancel t.id reason workspace expected) ∨
      ∃ a newStatus, c.op = .updateWithConfirm t.id a ∧ a.status = some newStatus ∧
        isTerminalStatus newStatus = true)

structure KeepsFresh (s : TaskStore) (c : StoreCall) : Prop where
  quiet : c.isQuiet = true → ∀ t p, Rewrites c s.inner t → ¬ LiveParent s.inner t p
  nested : c.isQuiet = false → ∀ t p g, Rewrites c s.inner t → LiveParent s.inner t p →
    ¬ LiveParent s.inner p g
  created : ∀ id input p g, c.op = .create id input →
    s.inner.get (Text.trim input.parentTaskId) = some p → p.removedAt = none →
    ¬ LiveParent s.inner p g
  ended : ∀ t, Rewrites c s.inner t → EndsTask c t → t.childTaskIds ≠ [] →
    ∃ child ∈ childRecords s.inner t, isTerminalStatus child.status = false

lemma Touch.terminal_eq_or_ends {c : StoreCall} {t t' : Task} (h : Touch c t t') :
    isTerminalStatus t'.status = isTerminalStatus t.status ∨ EndsTask c t := by
  by_cases hterminal : isTerminalStatus t.status = true
  · exact Or.inl (congrArg isTerminalStatus (h.status_eq_of_terminal hterminal))
  · have hopen : isTerminalStatus t.status = false := by simpa using hterminal
    cases h with
    | @updated a hop =>
      show isTerminalStatus (applyUpdate _ _ a t).1.status = _ ∨ _
      rw [applyUpdate_status]
      cases hstatus : a.status with
      | none => exact Or.inl rfl
      | some newStatus =>
        cases hnew : isTerminalStatus newStatus with
        | true => exact Or.inr ⟨hopen, Or.inr ⟨a, newStatus, hop, hstatus, hnew⟩⟩
        | false => exact Or.inl (hnew.trans hopen.symm)
    | cancelled hop => exact Or.inr ⟨hopen, Or.inl ⟨_, _, _, hop⟩⟩
    | removed => exact Or.inl rfl
    | retried =>
      refine Or.inl (Eq.trans ?_ hopen.symm)
      unfold retryRecord clearTaskRetryState
      dsimp only
      split <;> rfl
    | recovered =>
      refine Or.inl (Eq.trans ?_ hopen.symm)
      unfold recoverRecord clearTaskRetryState
      dsimp only
      split <;> rfl
    | dispatched => exact Or.inl rfl
    | active => exact Or.inl rfl

lemma derivedOf_recoverRecord (u : Unicode) (now : Timestamp) (m : TaskMap) (t : Task)
    (hrunning : t.status = .inProgress) :
    (summarizeTaskRollup (recoverRecord u now t) m).map derivedOf =
      (summarizeTaskRollup t m).map derivedOf := by
  refine derivedOf_summarize_congr m ?_ (Or.inl ?_)
  · have heq := congrArg Task.childTaskIds (updateFrame_recoverRecord u now t)
    exact heq
  · rw [hrunning]
    unfold recoverRecord clearTaskRetryState
    dsimp only
    split <;> rfl

variable {s : TaskStore}

lemma derivedCurrent_storeStep {s' : TaskStore} {c : StoreCall} (hstep : StoreStep s c s')
    (hkeeps : KeepsFresh s c) (hlinked : Linked s.inner)
    (h : CurrentExcept derivedView (fun _ => False) s.inner) :
    CurrentExcept derivedView (fun _ => False) s'.inner := by
  -- A removed task may fall behind: nothing is promised for it, and it stays
  -- removed.
  have hexempt : ∀ {t : Task} {id : String}, s.inner.get id = some t → t.parentTaskId ≠ "" →
      (∀ p, ¬ LiveParent s.inner t p) →
      ∃ p, s.inner.get t.parentTaskId = some p ∧ p.removedAt ≠ none := by
    intro t id hget hne hnone
    obtain ⟨p, hp⟩ := hlinked.named hget hne
    exact ⟨p, hp, fun hlive => hnone p ⟨hne, hp, hlive⟩⟩
  have hcurrent : CurrentExcept derivedView
      (fun id => ∃ p, s.inner.get id = some p ∧ p.removedAt ≠ none) s'.inner := by
    obtain ⟨hfresh, rfl⟩ := hstep
    refine CurrentExcept.effect (StoreCall.effect hfresh) hlinked
      (h.mono fun _ hfalse => hfalse.elim) ?_ ?_ ?_ (Or.inr ?_)
    · intro t t' hget htouch
      refine derivedOf_summarize_congr s.inner htouch.childTaskIds_eq ?_
      refine htouch.terminal_eq_or_ends.imp_right fun hends => ?_
      by_cases hchildren : t.childTaskIds = []
      · exact Or.inl hchildren
      · exact Or.inr (hkeeps.ended t ⟨hget, t', htouch⟩ hends hchildren)
    · exact fun m t hrunning => derivedOf_recoverRecord _ _ m t hrunning
    · intro hquiet t t' hget htouch
      exact Or.inr fun hne => hexempt hget hne fun p =>
        hkeeps.quiet hquiet t p ⟨hget, t', htouch⟩
    · rintro p (⟨t, t', hget, htouch, hloud, hnamed, hp⟩ | ⟨id, input, hop, hp⟩) hlive hne
      · exact hexempt hp hne fun g =>
          hkeeps.nested hloud t p g ⟨hget, t', htouch⟩ ⟨hnamed, hp, hlive⟩
      · exact hexempt hp hne fun g => hkeeps.created id input p g hop hp hlive
  intro id p hp hlive _
  refine hcurrent id p hp hlive ?_
  rintro ⟨q, hq, hremoved⟩
  obtain ⟨q', hq', _, hfrozen⟩ := settled_recordRelation.storeStep hstep id q hq
  obtain rfl := hfrozen hremoved
  rw [hp] at hq'
  exact hremoved (Option.some.inj hq' ▸ hlive)

/-! ## The derived fields over a run -/

lemma foldl_latest_some (stamps : List Timestamp) (first : Timestamp) :
    ∃ ts, stamps.foldl latest (some first) = some ts ∧ ts ∈ first :: stamps ∧
      ∀ x ∈ first :: stamps, x ≤ ts := by
  induction stamps generalizing first with
  | nil => exact ⟨first, rfl, List.mem_cons_self, by simp⟩
  | cons stamp rest ih =>
    rw [List.foldl_cons, latest]
    split
    · rename_i hlater
      obtain ⟨ts, hfold, hmem, hmax⟩ := ih stamp
      refine ⟨ts, hfold, List.mem_cons_of_mem _ hmem, ?_⟩
      intro x hx
      rcases List.mem_cons.mp hx with rfl | hx
      · exact (le_of_lt hlater).trans (hmax stamp List.mem_cons_self)
      · exact hmax x hx
    · rename_i hnot
      obtain ⟨ts, hfold, hmem, hmax⟩ := ih first
      refine ⟨ts, hfold, ?_, ?_⟩
      · rcases List.mem_cons.mp hmem with rfl | hmem
        · exact List.mem_cons_self
        · exact List.mem_cons_of_mem _ (List.mem_cons_of_mem _ hmem)
      · intro x hx
        rcases List.mem_cons.mp hx with rfl | hx
        · exact hmax x List.mem_cons_self
        · rcases List.mem_cons.mp hx with rfl | hx
          · exact (not_lt.mp hnot).trans (hmax first List.mem_cons_self)
          · exact hmax x (List.mem_cons_of_mem _ hx)

lemma foldl_latest_none {stamps : List Timestamp} (h : stamps ≠ []) :
    ∃ ts, stamps.foldl latest none = some ts ∧ ts ∈ stamps ∧ ∀ x ∈ stamps, x ≤ ts := by
  cases stamps with
  | nil => exact absurd rfl h
  | cons stamp rest => exact foldl_latest_some rest stamp

def RollupsFresh (s : TaskStore) : Prop :=
  ∀ id t, s.inner.get id = some t → t.removedAt = none → t.childTaskIds ≠ [] →
    ∃ r, t.rollup = some r ∧
      (r.needsParentReconciliation = true ↔
        (∀ child ∈ childRecords s.inner t, isTerminalStatus child.status = true) ∧
          isTerminalStatus t.status = false) ∧
      ∃ ts, r.lastChildUpdateAt = some ts ∧
        (∃ child ∈ childRecords s.inner t, child.updatedAt = ts) ∧
        ∀ child ∈ childRecords s.inner t, child.updatedAt ≤ ts

lemma rollupsFresh_of_current (hlinked : Linked s.inner)
    (h : CurrentExcept derivedView (fun _ => False) s.inner) : RollupsFresh s := by
  intro id t hget hlive hchildren
  have hcurrent : t.rollup.map derivedOf = (summarizeTaskRollup t s.inner).map derivedOf :=
    h id t hget hlive not_false
  rw [derivedOf_summarize, if_neg (by simpa using hchildren)] at hcurrent
  obtain ⟨r, hr, hderived⟩ := Option.map_eq_some_iff.mp hcurrent
  obtain ⟨hneeds, hlatest⟩ := Prod.mk.inj hderived
  have hids := hlinked.childRecords_ids hget
  have hlength : (childRecords s.inner t).length = t.childTaskIds.length := by
    rw [← hids, List.length_map]
  have hne : childRecords s.inner t ≠ [] := by
    rintro hnil
    rw [hnil] at hids
    exact hchildren hids.symm
  have hpos : 0 < (childRecords s.inner t).length := List.length_pos_iff.mpr hne
  refine ⟨r, hr, ?_, ?_⟩
  · rw [hneeds, ← hlength, Bool.and_eq_true, Bool.not_eq_true']
    refine and_congr_left fun _ => ?_
    simp only [countStatuses, Bool.and_eq_true, decide_eq_true_eq, Int.natCast_inj]
    rw [← List.length_map Task.status, List.countP_eq_length]
    simp [hpos]
  · have hstamps : (childRecords s.inner t).map Task.updatedAt ≠ [] := by
      simpa using hne
    obtain ⟨ts, hfold, hmem, hmax⟩ := foldl_latest_none hstamps
    obtain ⟨child, hchild, hstamp⟩ := List.mem_map.mp hmem
    exact ⟨ts, hlatest.trans hfold, ⟨child, hchild, hstamp⟩,
      fun child hchild => hmax _ (List.mem_map_of_mem hchild)⟩

/-- In a run from a store without records whose calls all meet the condition,
the derived fields of every rollup are right in every state. -/
theorem rollupsFresh_of_keepsFresh {s : TaskStore} {calls : List StoreCall}
    (hempty : s.inner = KeyedMap.empty) (hkeeps : Exec.EachStep StoreStep KeepsFresh s calls) :
    Exec.EachState StoreStep RollupsFresh s calls := by
  have hstart : Linked s.inner ∧ CurrentExcept derivedView (fun _ => False) s.inner := by
    rw [hempty]
    refine ⟨Linked.empty, ?_⟩
    intro id p hp
    simp at hp
  have hstates := Exec.eachState_of_eachStep (P := KeepsFresh)
    (Q := fun s => Linked s.inner ∧ CurrentExcept derivedView (fun _ => False) s.inner)
    (fun s c s' hstep h hkeep =>
      ⟨h.1.storeStep hstep, derivedCurrent_storeStep hstep hkeep h.1 h.2⟩) hstart hkeeps
  intro pre post t hsplit hexec
  obtain ⟨hlinked, hcurrent⟩ := hstates pre post t hsplit hexec
  exact rollupsFresh_of_current hlinked hcurrent

def cancelledParentCalls : List StoreCall :=
  cancelledChildCalls ++ [callAt 3 (.cancel "p" "" "owner" none)]

/-- The cancelled parent is still reported as waiting for its reconciliation. -/
theorem rollupsFresh_broken :
    ∃ s', Exec StoreStep inMemory cancelledParentCalls s' ∧ ¬ RollupsFresh s' := by
  refine ⟨_, exec_applyAll (by decide), ?_⟩
  intro hfresh
  let t := ((applyAll inMemory cancelledParentCalls).inner.get "p").get (by decide)
  obtain ⟨r, hr, hneeds, _⟩ := hfresh "p" t (Option.some_get _).symm (by decide) (by decide)
  have hwaits : t.rollup.map TaskRollup.needsParentReconciliation = some true := by decide
  have hopen : isTerminalStatus t.status = true := by decide
  rw [hr] at hwaits
  obtain ⟨_, hnot⟩ := hneeds.mp (Option.some.inj hwaits)
  rw [hopen] at hnot
  cases hnot

lemma keepsFresh_create {now : Timestamp} {id : String} {input : CreateTaskInput}
    (hparent : ∀ p g, s.inner.get (Text.trim input.parentTaskId) = some p →
      ¬ LiveParent s.inner p g) : KeepsFresh s (callAt now (.create id input)) := by
  have hno : ∀ t, ¬ Rewrites (callAt now (.create id input)) s.inner t := by
    rintro t ⟨_, t', htouch⟩
    cases htouch <;> contradiction
  constructor
  · exact fun _ t _ hrewrites => absurd hrewrites (hno t)
  · exact fun _ t _ _ hrewrites => absurd hrewrites (hno t)
  · intro id' input' p g hop hp _
    cases hop
    exact hparent p g hp
  · exact fun t hrewrites => absurd hrewrites (hno t)

lemma keepsFresh_cancel {now : Timestamp} {id reason workspace : String} {expected : Option Int}
    (hnested : ∀ t p g, s.inner.get id = some t → LiveParent s.inner t p →
      ¬ LiveParent s.inner p g) (hchildless : ∀ t, s.inner.get id = some t → t.childTaskIds = []) :
    KeepsFresh s (callAt now (.cancel id reason workspace expected)) := by
  have htarget : ∀ t, Rewrites (callAt now (.cancel id reason workspace expected)) s.inner t →
      s.inner.get id = some t := by
    rintro t ⟨hget, t', htouch⟩
    cases htouch with
    | cancelled hop =>
      obtain ⟨rfl, _⟩ := StoreOp.cancel.inj hop
      exact hget
    | updated hop | removed hop | retried hop | recovered hop | dispatched hop | active hop =>
      cases hop
  constructor
  · exact fun hquiet => absurd hquiet Bool.false_ne_true
  · exact fun _ t p g hrewrites => hnested t p g (htarget t hrewrites)
  · intro id' input p g hop
    cases hop
  · exact fun t hrewrites _ hchildren => absurd (hchildless t (htarget t hrewrites)) hchildren

/-- The theorem at a parent, a child of it and the child's cancellation. -/
theorem rollupsFresh_example :
    Exec.EachStep StoreStep KeepsFresh inMemory cancelledChildCalls ∧
      RollupsFresh (applyAll inMemory cancelledChildCalls) := by
  have hsteps : Exec.EachStep StoreStep KeepsFresh inMemory cancelledChildCalls := by
    refine Exec.EachStep.cons StoreStep.deterministic ⟨by decide, rfl⟩ ?_
      (Exec.EachStep.cons StoreStep.deterministic ⟨by decide, rfl⟩ ?_
        (Exec.EachStep.cons StoreStep.deterministic ⟨by decide, rfl⟩ ?_ (Exec.EachStep.nil _)))
    · refine keepsFresh_create fun p g hp => ?_
      exact absurd (Option.some_ne_none p) (by rw [← hp]; decide)
    · refine keepsFresh_create fun p g hp hlive => hlive.1 ?_
      exact Option.some.inj ((congrArg (Option.map Task.parentTaskId) hp).symm.trans (by decide))
    · refine keepsFresh_cancel (fun t p g ht hp hlive => hlive.1 ?_) fun t ht => ?_
      · have hparent : t.parentTaskId = "p" :=
          Option.some.inj ((congrArg (Option.map Task.parentTaskId) ht).symm.trans (by decide))
        have hget := hp.2.1
        rw [hparent] at hget
        exact Option.some.inj
          ((congrArg (Option.map Task.parentTaskId) hget).symm.trans (by decide))
      · exact Option.some.inj ((congrArg (Option.map Task.childTaskIds) ht).symm.trans (by decide))
  exact ⟨hsteps, rollupsFresh_of_keepsFresh rfl hsteps _ [] _ (List.append_nil _).symm
    (exec_applyAll (by decide))⟩

end Ax.Daemon
