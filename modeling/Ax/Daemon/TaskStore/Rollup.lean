import Ax.Foundation.KeyedMap
import Ax.Daemon.TaskStore.Record

/-!
# Rollups

A parent task stores a summary of its children.  `summarizeTaskRollup` computes
it from the current child records and `refreshParentRollup` writes it back,
counting a new version of the parent when anything changed.

Main results:

- Theorem `rollupEqual_iff`: the hand-written comparison is equality.
- Theorem `refreshParentRollup_cases`: a refresh changes nothing or stores the
  refreshed record of one parent that is not removed.
-/

namespace Ax.Daemon

/-- The records of the store under their ids. -/
abbrev TaskMap := KeyedMap String Task Task.id

/-! ## Summaries -/

def tallyStatus (rollup : TaskRollup) : TaskStatus → TaskRollup
  | .pending => { rollup with pendingChildren := rollup.pendingChildren + 1 }
  | .inProgress => { rollup with inProgressChildren := rollup.inProgressChildren + 1 }
  | .blocked => { rollup with blockedChildren := rollup.blockedChildren + 1 }
  | .completed =>
    { rollup with
      completedChildren := rollup.completedChildren + 1
      terminalChildren := rollup.terminalChildren + 1 }
  | .failed =>
    { rollup with
      failedChildren := rollup.failedChildren + 1
      terminalChildren := rollup.terminalChildren + 1 }
  | .cancelled =>
    { rollup with
      cancelledChildren := rollup.cancelledChildren + 1
      terminalChildren := rollup.terminalChildren + 1 }

def isActiveStatus (status : TaskStatus) : Bool :=
  status = .pending || status = .inProgress

def latest (seen : Option Timestamp) (stamp : Timestamp) : Option Timestamp :=
  match seen with
  | none => some stamp
  | some ts => if stamp > ts then some stamp else some ts

def tallyChild (rollup : TaskRollup) (child : Task) : TaskRollup :=
  let counted := tallyStatus rollup child.status
  { counted with
    activeChildren :=
      if isActiveStatus child.status then counted.activeChildren + 1
      else counted.activeChildren
    lastChildUpdateAt := latest counted.lastChildUpdateAt child.updatedAt }

def tallyChildren (all : TaskMap) : TaskRollup → List String → TaskRollup
  | rollup, [] => rollup
  | rollup, childId :: rest =>
    match all.get childId with
    | none => tallyChildren all rollup rest
    | some child => tallyChildren all (tallyChild rollup child) rest

def emptyRollup (parent : Task) : TaskRollup where
  totalChildren := parent.childTaskIds.length
  pendingChildren := 0
  inProgressChildren := 0
  blockedChildren := 0
  completedChildren := 0
  failedChildren := 0
  cancelledChildren := 0
  terminalChildren := 0
  activeChildren := 0
  lastChildUpdateAt := none
  allChildrenTerminal := false
  needsParentReconciliation := false
  summary := ""

def formatRollupSummary (parent : Task) (rollup : TaskRollup) : String :=
  let base :=
    s!"Child rollup: total={rollup.totalChildren} active={rollup.activeChildren} " ++
    s!"completed={rollup.completedChildren} failed={rollup.failedChildren} " ++
    s!"cancelled={rollup.cancelledChildren} pending={rollup.pendingChildren} " ++
    s!"in_progress={rollup.inProgressChildren} blocked={rollup.blockedChildren}."
  if rollup.needsParentReconciliation then
    base ++ " All child tasks are terminal; parent reconciliation is still required."
  else if rollup.allChildrenTerminal then base ++ " All child tasks are terminal."
  else if parent.status = .pending then base ++ " Parent is waiting on child progress."
  else base ++ " Parent remains open while child work is still active."

def concludeRollup (parent : Task) (rollup : TaskRollup) : TaskRollup :=
  let allTerminal :=
    decide (rollup.totalChildren > 0) &&
      decide (rollup.terminalChildren = rollup.totalChildren)
  let concluded :=
    { rollup with
      allChildrenTerminal := allTerminal
      needsParentReconciliation := allTerminal && !isTerminalStatus parent.status }
  { concluded with summary := formatRollupSummary parent concluded }

/-- The summary of a task's children; a task without children has none. -/
def summarizeTaskRollup (parent : Task) (all : TaskMap) : Option TaskRollup :=
  if parent.childTaskIds.isEmpty then none
  else some (concludeRollup parent (tallyChildren all (emptyRollup parent) parent.childTaskIds))

def childRecords (all : TaskMap) (parent : Task) : List Task :=
  parent.childTaskIds.filterMap all.get

variable (all : TaskMap)

lemma tallyChildren_eq (rollup : TaskRollup) (ids : List String) :
    tallyChildren all rollup ids = (ids.filterMap all.get).foldl tallyChild rollup := by
  induction ids generalizing rollup with
  | nil => rfl
  | cons childId rest ih =>
    unfold tallyChildren
    cases hget : all.get childId with
    | none => rw [List.filterMap_cons_none hget]; exact ih rollup
    | some child => rw [List.filterMap_cons_some hget]; exact ih (tallyChild rollup child)

variable (parent : Task)

lemma summarizeTaskRollup_eq (all : TaskMap) :
    summarizeTaskRollup parent all =
      if parent.childTaskIds.isEmpty then none
      else some (concludeRollup parent
        ((childRecords all parent).foldl tallyChild (emptyRollup parent))) := by
  simp only [summarizeTaskRollup, tallyChildren_eq, childRecords]

lemma foldl_tallyChild_count (counter : TaskRollup → Int) (kind : TaskStatus → Bool)
    (hstep : ∀ rollup child, counter (tallyChild rollup child) =
      counter rollup + if kind child.status then 1 else 0)
    (children : List Task) (rollup : TaskRollup) :
    counter (children.foldl tallyChild rollup) =
      counter rollup + (children.map Task.status).countP kind := by
  induction children generalizing rollup with
  | nil => simp
  | cons child rest ih =>
    rw [List.foldl_cons, ih, hstep, List.map_cons, List.countP_cons]
    split
    · simp
      omega
    · simp

lemma foldl_tallyChild_total (children : List Task) (rollup : TaskRollup) :
    (children.foldl tallyChild rollup).totalChildren = rollup.totalChildren := by
  induction children generalizing rollup with
  | nil => rfl
  | cons child rest ih =>
    rw [List.foldl_cons, ih]
    unfold tallyChild tallyStatus
    cases child.status <;> rfl

lemma foldl_tallyChild_latest (children : List Task) (rollup : TaskRollup) :
    (children.foldl tallyChild rollup).lastChildUpdateAt =
      (children.map Task.updatedAt).foldl latest rollup.lastChildUpdateAt := by
  induction children generalizing rollup with
  | nil => rfl
  | cons child rest ih =>
    rw [List.foldl_cons, ih, List.map_cons, List.foldl_cons]
    congr 1
    unfold tallyChild tallyStatus
    cases child.status <;> rfl

/-! ## Refreshing a parent -/

def rollupEqual (a b : Option TaskRollup) : Bool :=
  match a, b with
  | none, none => true
  | none, some _ | some _, none => false
  | some x, some y =>
    x.totalChildren = y.totalChildren
      && x.pendingChildren = y.pendingChildren
      && x.inProgressChildren = y.inProgressChildren
      && x.blockedChildren = y.blockedChildren
      && x.completedChildren = y.completedChildren
      && x.failedChildren = y.failedChildren
      && x.cancelledChildren = y.cancelledChildren
      && x.terminalChildren = y.terminalChildren
      && x.activeChildren = y.activeChildren
      && x.allChildrenTerminal = y.allChildrenTerminal
      && x.needsParentReconciliation = y.needsParentReconciliation
      && x.summary = y.summary
      && x.lastChildUpdateAt = y.lastChildUpdateAt

/-- The comparison covers every field, so it is equality. -/
theorem rollupEqual_iff (a b : Option TaskRollup) : rollupEqual a b = true ↔ a = b := by
  cases a with
  | none => cases b <;> simp [rollupEqual]
  | some x =>
    cases b with
    | none => simp [rollupEqual]
    | some y =>
      cases x
      cases y
      simp only [rollupEqual, Bool.and_eq_true, decide_eq_true_eq, Option.some.injEq,
        TaskRollup.mk.injEq]
      tauto

def shouldAppendRollupLog (task : Task) (msg : String) : Bool :=
  if msg = "" then false
  else
    match task.logs.getLast? with
    | none => true
    | some last => last.message ≠ msg

def writeRollup (parent : Task) (rollup : Option TaskRollup) (now : Timestamp) : Task × Bool :=
  let changed := !rollupEqual parent.rollup rollup
  let parent' := { parent with rollup := rollup }
  match rollup with
  | none => (parent', changed)
  | some r =>
    if r.summary ≠ "" ∧ shouldAppendRollupLog parent' r.summary then
      (pushLog parent' now parent.assignee r.summary, true)
    else (parent', changed)

def refreshRollup (all : TaskMap) (parent : Task) (now : Timestamp) : Task :=
  let written := writeRollup parent (summarizeTaskRollup parent all) now
  if written.2 then bump now written.1 else written.1

/-- Recompute the summary of a parent that exists and is not removed. -/
def refreshParentRollup (all : TaskMap) (parentId : String) (now : Timestamp) : TaskMap :=
  let pid := Text.trim parentId
  if pid = "" then all
  else
    match all.get pid with
    | none => all
    | some parent => if parent.removedAt.isSome then all else all.put (refreshRollup all parent now)

variable (now : Timestamp)

lemma refreshRollup_frame :
    refreshRollup all parent now =
      { parent with
        rollup := summarizeTaskRollup parent all
        logs := (refreshRollup all parent now).logs
        version := (refreshRollup all parent now).version
        updatedAt := (refreshRollup all parent now).updatedAt } := by
  unfold refreshRollup writeRollup
  cases summarizeTaskRollup parent all with
  | none => dsimp only; split <;> rfl
  | some r => dsimp only; split <;> dsimp only <;> split <;> rfl

@[simp]
lemma refreshRollup_id : (refreshRollup all parent now).id = parent.id := by
  rw [refreshRollup_frame]

@[simp]
lemma refreshRollup_status : (refreshRollup all parent now).status = parent.status := by
  rw [refreshRollup_frame]

@[simp]
lemma refreshRollup_result : (refreshRollup all parent now).result = parent.result := by
  rw [refreshRollup_frame]

lemma refreshRollup_eq_or_version :
    refreshRollup all parent now = parent ∨
      (refreshRollup all parent now).version = parent.version + 1 := by
  -- Without a log line the flag is the comparison alone, so an unset flag
  -- means that the written summary is the stored one.
  have hsame : ∀ rollup : Option TaskRollup, rollupEqual parent.rollup rollup = true →
      { parent with rollup := rollup } = parent := by
    intro rollup heq
    rw [← (rollupEqual_iff _ _).mp heq]
  unfold refreshRollup writeRollup
  cases summarizeTaskRollup parent all with
  | none =>
    cases heq : rollupEqual parent.rollup none with
    | false => exact Or.inr rfl
    | true => exact Or.inl (hsame none heq)
  | some r =>
    by_cases hlog : r.summary ≠ "" ∧
        shouldAppendRollupLog { parent with rollup := some r } r.summary = true
    · simp only [if_pos hlog, if_true]
      exact Or.inr rfl
    · cases heq : rollupEqual parent.rollup (some r) with
      | false =>
        simp only [if_neg hlog, Bool.not_false, if_true]
        exact Or.inr rfl
      | true =>
        simp only [if_neg hlog, Bool.not_true]
        exact Or.inl (hsame (some r) heq)

/-- A refresh stores the refreshed record of its parent, or it changes nothing
because no parent is named, found and not removed. -/
theorem refreshParentRollup_cases (parentId : String) (now : Timestamp) :
    (refreshParentRollup all parentId now = all ∧
      (Text.trim parentId ≠ "" →
        ∀ parent, all.get (Text.trim parentId) = some parent → parent.removedAt ≠ none)) ∨
      ∃ parent, Text.trim parentId ≠ "" ∧ all.get (Text.trim parentId) = some parent ∧
        parent.removedAt = none ∧
        refreshParentRollup all parentId now = all.put (refreshRollup all parent now) := by
  unfold refreshParentRollup
  by_cases hempty : Text.trim parentId = ""
  · simp [hempty]
  · simp only [if_neg hempty]
    cases hget : all.get (Text.trim parentId) with
    | none => simp
    | some parent =>
      by_cases hlive : parent.removedAt = none
      · simp [hlive, hempty]
      · simp [hlive, Option.isSome_iff_ne_none.mpr hlive]

lemma get_refreshParentRollup {all : TaskMap} {id : String} {t : Task}
    (hget : all.get id = some t) (parentId : String) (now : Timestamp) :
    (refreshParentRollup all parentId now).get id = some t ∨
      (refreshParentRollup all parentId now).get id = some (refreshRollup all t now) := by
  rcases refreshParentRollup_cases all parentId now with ⟨heq, _⟩ | ⟨parent, _, hparent, _, heq⟩
  · rw [heq]
    exact Or.inl hget
  · rw [heq, KeyedMap.get_put]
    split
    · rename_i hid
      rw [refreshRollup_id, KeyedMap.key_of_get hparent] at hid
      rw [← hid, hget] at hparent
      rw [Option.some.inj hparent]
      exact Or.inr rfl
    · exact Or.inl hget

end Ax.Daemon
