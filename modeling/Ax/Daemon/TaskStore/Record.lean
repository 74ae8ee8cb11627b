import Ax.Daemon.TaskHelpers

/-!
# Task records

What the task store does to a single record: the checks that guard an update or
a control request, and the field changes of every mutation.  The store-level
operations look a record up, run one of the functions of this file on it and
write the result back.

Main results:

- Theorem `applyUpdate_eq_self`: an update that reports no change changes no field.
- Theorem `isAllowedTransition_of_terminal`: no transition leaves a terminal status.
-/

namespace Ax.Daemon

inductive TaskStoreError
  | parentNotFound (id : String)
  | parentRemoved (id : String)
  | notFound (id : String)
  | removed (id : String)
  | unauthorisedUpdate (workspace id : String)
  | unauthorisedResult (workspace id owner : String)
  | unauthorisedStatus (workspace id owner : String)
  | invalidTransition (current next : String)
  | versionMismatch (id : String) (found want : Int)
  | unauthorisedControl (workspace id : String)
  | notRetryable (id : String)
  | alreadyTerminal (id status : String)
  | notTerminalForRemove (id : String)
  | missingCompletionEvidence (id : String)
  | completionRequiresConfirmation (id : String)
  | read (path source : String)
  | decode (path source : String)
  | encode (source : String)
  | persist (reason : String)
deriving DecidableEq, Repr

def TaskStoreError.message (u : Unicode) : TaskStoreError → String
  | .parentNotFound id => s!"parent task {Text.debugStr u id} not found"
  | .parentRemoved id => s!"parent task {Text.debugStr u id} has been removed"
  | .notFound id => s!"task {Text.debugStr u id} not found"
  | .removed id => s!"task {Text.debugStr u id} has been removed"
  | .unauthorisedUpdate ws id =>
    s!"workspace {Text.debugStr u ws} cannot update task {Text.debugStr u id}"
  | .unauthorisedResult ws id owner =>
    s!"workspace {Text.debugStr u ws} cannot set result for task {Text.debugStr u id} " ++
      s!"owned by {Text.debugStr u owner}"
  | .unauthorisedStatus ws id owner =>
    s!"workspace {Text.debugStr u ws} cannot change status for task {Text.debugStr u id} " ++
      s!"owned by {Text.debugStr u owner}"
  | .invalidTransition current next =>
    s!"invalid task status transition {Text.debugStr u current} -> {Text.debugStr u next}"
  | .versionMismatch id found want =>
    s!"task {Text.debugStr u id} version mismatch: have {found} want {want}"
  | .unauthorisedControl ws id =>
    s!"workspace {Text.debugStr u ws} cannot manage task {Text.debugStr u id}"
  | .notRetryable id => s!"task {Text.debugStr u id} is not pending/in_progress/blocked"
  | .alreadyTerminal id status =>
    s!"task {Text.debugStr u id} is already terminal ({Text.debugStr u status})"
  | .notTerminalForRemove id =>
    s!"task {Text.debugStr u id} must be completed, failed, or cancelled before remove"
  | .missingCompletionEvidence id =>
    s!"task {Text.debugStr u id} cannot be marked completed without a leftover-scope " ++
    "declaration. Call update_task again with result containing either " ++
    "`remaining owned dirty files=<none>` (nothing left) or " ++
    "`remaining owned dirty files=<paths>; residual scope=<why work remains>` " ++
    "(more to do). See the Completion Reporting Contract in this workspace's instructions."
  | .completionRequiresConfirmation id =>
    s!"task {Text.debugStr u id} requires explicit self-verification before being marked " ++
    "completed. Re-read the Completion Reporting Contract checklist: " ++
    "(1) every file you said you'd change is saved and committed where it belongs; " ++
    "(2) tests / build pass if applicable, or you've called out why they don't; " ++
    "(3) `result` already contains the `remaining owned dirty files=` marker in the " ++
    "correct shape; " ++
    "(4) no TODO, skipped branch, or unresolved blocker remains inside this task's scope. " ++
    "Once you've walked through the checklist, call update_task again with `confirm=true`. " ++
    "Do not set `confirm=true` by reflex — the point of this gate is that a human reading " ++
    "your transcript can see you paused to self-verify."
  | .read path source => s!"read {Text.debugStr u path}: {source}"
  | .decode path source => s!"decode {Text.debugStr u path}: {source}"
  | .encode source => s!"encode tasks: {source}"
  | .persist reason => s!"persist tasks: {reason}"

/-- The arguments of `update_with_confirm`, apart from the task's id. -/
structure UpdateArgs where
  status : Option TaskStatus
  result : Option String
  logMsg : Option String
  confirm : Option Bool
  workspace : String
deriving DecidableEq, Repr

/-! ## Validation -/

def isTerminalStatus : TaskStatus → Bool
  | .completed | .failed | .cancelled => true
  | .pending | .inProgress | .blocked => false

/-- The transitions that `update_with_confirm` accepts. -/
def isAllowedTransition (current next : TaskStatus) : Bool :=
  if current = next then true
  else
    match current, next with
    | .pending, .inProgress | .pending, .blocked | .pending, .completed
    | .pending, .failed | .pending, .cancelled => true
    | .inProgress, .blocked | .inProgress, .completed
    | .inProgress, .failed | .inProgress, .cancelled => true
    | .blocked, .pending | .blocked, .inProgress | .blocked, .completed
    | .blocked, .failed | .blocked, .cancelled => true
    | _, _ => false

/-- No transition leaves a terminal status. -/
theorem isAllowedTransition_of_terminal {current next : TaskStatus}
    (hterm : isTerminalStatus current = true)
    (hallowed : isAllowedTransition current next = true) : next = current := by
  cases current <;> cases next <;> simp_all [isTerminalStatus, isAllowedTransition]

def completionMarker : String := "remaining owned dirty files="

def hasLeftoverScopeDeclaration (result : String) : Bool :=
  Text.contains result completionMarker

/-- The gate on the edge into `completed`: the effective result carries the
marker and the caller confirmed. -/
def validateCompletion (task : Task) (a : UpdateArgs) : Except TaskStoreError Unit :=
  if hasLeftoverScopeDeclaration (a.result.getD task.result) = false then
    .error (.missingCompletionEvidence task.id)
  else if a.confirm.getD false = false then
    .error (.completionRequiresConfirmation task.id)
  else .ok ()

def validateStatusChange (task : Task) (a : UpdateArgs) (newStatus : TaskStatus) :
    Except TaskStoreError Unit :=
  if a.workspace ≠ task.assignee ∧ newStatus ≠ task.status then
    .error (.unauthorisedStatus a.workspace task.id task.assignee)
  else if isAllowedTransition task.status newStatus = false then
    .error (.invalidTransition (statusLabel task.status) (statusLabel newStatus))
  else if newStatus = .completed ∧ task.status ≠ .completed then validateCompletion task a
  else .ok ()

def validateTaskUpdate (task : Task) (a : UpdateArgs) : Except TaskStoreError Unit :=
  if task.removedAt.isSome then .error (.removed task.id)
  else if a.workspace ≠ task.assignee ∧ a.workspace ≠ task.createdBy then
    .error (.unauthorisedUpdate a.workspace task.id)
  else if a.result.any (fun r => Text.trim r ≠ "") ∧ a.workspace ≠ task.assignee then
    .error (.unauthorisedResult a.workspace task.id task.assignee)
  else
    match a.status with
    | none => .ok ()
    | some newStatus => validateStatusChange task a newStatus

variable {a : UpdateArgs} {task : Task} {now : Timestamp} {u : Unicode}

lemma validateStatusChange_eq_ok_iff {newStatus : TaskStatus} :
    validateStatusChange task a newStatus = .ok () ↔
      (a.workspace = task.assignee ∨ newStatus = task.status) ∧
        isAllowedTransition task.status newStatus = true ∧
        (newStatus = .completed → task.status ≠ .completed →
          validateCompletion task a = .ok ()) := by
  unfold validateStatusChange
  by_cases howner : a.workspace ≠ task.assignee ∧ newStatus ≠ task.status
  · rw [if_pos howner]
    simp [howner.1, howner.2]
  · have hallowed : a.workspace = task.assignee ∨ newStatus = task.status := by tauto
    rw [if_neg howner]
    cases htransition : isAllowedTransition task.status newStatus with
    | false => simp
    | true =>
      by_cases hcompletes : newStatus = .completed ∧ task.status ≠ .completed
      · rw [if_neg (by simp), if_pos hcompletes]
        simp only [hallowed, true_and]
        exact ⟨fun h _ _ => h, fun h => h hcompletes.1 hcompletes.2⟩
      · rw [if_neg (by simp), if_neg hcompletes]
        simp only [hallowed, true_and, true_iff]
        exact fun h₁ h₂ => absurd ⟨h₁, h₂⟩ hcompletes

structure UpdateAllowed (task : Task) (a : UpdateArgs) : Prop where
  live : task.removedAt = none
  party : a.workspace = task.assignee ∨ a.workspace = task.createdBy
  author : ∀ r, a.result = some r → Text.trim r ≠ "" → a.workspace = task.assignee
  status : ∀ newStatus, a.status = some newStatus → validateStatusChange task a newStatus = .ok ()

lemma validateTaskUpdate_eq_ok_iff :
    validateTaskUpdate task a = .ok () ↔ UpdateAllowed task a := by
  have hauthor : (a.result.any (fun r => Text.trim r ≠ "") = true ∧ a.workspace ≠ task.assignee) ↔
      ¬∀ r, a.result = some r → Text.trim r ≠ "" → a.workspace = task.assignee := by
    cases a.result with
    | none => simp
    | some r => simp
  unfold validateTaskUpdate
  constructor
  · intro h
    split at h
    · cases h
    · rename_i hlive
      split at h
      · cases h
      · rename_i hparty
        split at h
        · cases h
        · rename_i hresult
          refine ⟨Option.not_isSome_iff_eq_none.mp hlive, by tauto,
            not_not.mp fun hnot => hresult (hauthor.mpr hnot), ?_⟩
          intro newStatus hstatus
          rw [hstatus] at h
          exact h
  · intro h
    have hlive : ¬task.removedAt.isSome = true := by simp [h.live]
    have hparty : ¬(a.workspace ≠ task.assignee ∧ a.workspace ≠ task.createdBy) := by
      rintro ⟨hassignee, hcreator⟩
      exact h.party.elim hassignee hcreator
    rw [if_neg hlive, if_neg hparty, if_neg fun hresult => hauthor.mp hresult h.author]
    cases hstatus : a.status with
    | none => rfl
    | some newStatus => exact h.status newStatus hstatus

def validateTaskControl (task : Task) (workspace : String) (expectedVersion : Option Int)
    (allowAssignee : Bool) : Except TaskStoreError Unit :=
  if task.removedAt.isSome then .error (.removed task.id)
  else
    match expectedVersion.filter (fun want => task.version ≠ want) with
    | some want => .error (.versionMismatch task.id task.version want)
    | none =>
      if workspace = operatorWorkspaceName ∨ workspace = task.createdBy then .ok ()
      else if allowAssignee ∧ workspace = task.assignee then .ok ()
      else .error (.unauthorisedControl workspace task.id)

/-! ## Field changes -/

/-- Where a claim comes from; `none` when the update carries nothing. -/
def claimSource (a : UpdateArgs) : Option String :=
  match a.status with
  | some s => some s!"status:{statusLabel s}"
  | none =>
    if a.result.isSome then some "result"
    else if a.logMsg.isSome then some "log"
    else none

def markTaskClaimed (task : Task) (workspace source : String) (now : Timestamp) :
    Task × Bool :=
  if task.claimedAt.isSome ∨ workspace ≠ task.assignee then (task, false)
  else
    ({ task with
        claimedAt := some now
        claimedBy := workspace
        claimSource := source
        attemptCount := task.attemptCount + 1
        lastAttemptAt := some now
        nextRetryAt := none }, true)

def clearTaskClaim (task : Task) : Task :=
  { task with claimedAt := none, claimedBy := "", claimSource := "" }

def clearTaskRetryState (task : Task) : Task × Bool :=
  if task.nextRetryAt.isNone then (task, false)
  else ({ task with nextRetryAt := none }, true)

def isDuplicateTaskLog (u : Unicode) (task : Task) (workspace logMsg : String)
    (now : Timestamp) : Bool :=
  let normalized := normalizeMessageForSuppression u logMsg
  if normalized = "" ∨ looksLikeNoopStatusMessage u normalized = false then false
  else
    match task.logs.getLast? with
    | none => false
    | some last =>
      if last.workspace ≠ workspace then false
      -- A negative span counts as outside the window.
      else if now - last.timestamp < 0 ∨ duplicateSuppressionWindow < now - last.timestamp then
        false
      else normalizeMessageForSuppression u last.message = normalized

def pushLog (task : Task) (now : Timestamp) (workspace message : String) : Task :=
  { task with logs := task.logs ++ [⟨now, workspace, message⟩] }

/-- Count one more change of a record, without touching its clock. -/
def bumpVersion (task : Task) : Task :=
  { task with version := task.version + 1 }

/-- Count one more change of a record and stamp it. -/
def bump (now : Timestamp) (task : Task) : Task :=
  { task with version := task.version + 1, updatedAt := now }

/-! ## The body of an update -/

def claimForUpdate (now : Timestamp) (a : UpdateArgs) (task : Task) : Task × Bool :=
  match claimSource a with
  | none => (task, false)
  | some source =>
    if a.workspace = task.assignee then markTaskClaimed task a.workspace source now
    else (task, false)

def applyStatus (a : UpdateArgs) (task : Task) : Task × Bool :=
  match a.status with
  | none => (task, false)
  | some newStatus =>
    let task' := { task with status := newStatus }
    if newStatus = .blocked ∨ isTerminalStatus newStatus then
      let cleared := clearTaskRetryState task'
      (cleared.1, decide (task.status ≠ newStatus) || cleared.2)
    else (task', decide (task.status ≠ newStatus))

def applyResult (a : UpdateArgs) (task : Task) : Task × Bool :=
  match a.result with
  | none => (task, false)
  | some newResult => ({ task with result := newResult }, decide (task.result ≠ newResult))

def applyLog (u : Unicode) (now : Timestamp) (a : UpdateArgs) (task : Task) : Task × Bool :=
  match a.logMsg with
  | none => (task, false)
  | some message =>
    if isDuplicateTaskLog u task a.workspace message now then (task, false)
    else (pushLog task now a.workspace message, true)

def evidenceHint : String :=
  "evidence hint: completion result contains no file paths or tool-command " ++
  "fragments. Reviewers may want to spot-check — the Completion Reporting " ++
  "Contract suggests mentioning the files you touched or the command(s) " ++
  "that verified the change."

/-- On the edge into `completed`, hint at a result without evidence. -/
def applyEvidenceHint (u : Unicode) (now : Timestamp) (prevStatus : TaskStatus)
    (task : Task) : Task × Bool :=
  if task.status = .completed ∧ prevStatus ≠ .completed ∧
      hasConcreteEvidence u task.result = false then
    (pushLog task now operatorWorkspaceName evidenceHint, true)
  else (task, false)

def applyUpdate (u : Unicode) (now : Timestamp) (a : UpdateArgs) (task : Task) : Task × Bool :=
  let r₁ := claimForUpdate now a task
  let r₂ := applyStatus a r₁.1
  let r₃ := applyResult a r₂.1
  let r₄ := applyLog u now a r₃.1
  let r₅ := applyEvidenceHint u now task.status r₄.1
  (r₅.1, r₁.2 || r₂.2 || r₃.2 || r₄.2 || r₅.2)

lemma claimForUpdate_eq_self (h : (claimForUpdate now a task).2 = false) :
    (claimForUpdate now a task).1 = task := by
  unfold claimForUpdate at h ⊢
  split
  · rfl
  · rename_i source heq
    rw [heq] at h
    dsimp only at h
    split
    · rename_i hws
      rw [if_pos hws] at h
      unfold markTaskClaimed at h ⊢
      split
      · rfl
      · rename_i hclaimed
        rw [if_neg hclaimed] at h
        simp at h
    · rfl

lemma applyStatus_eq_self (h : (applyStatus a task).2 = false) :
    (applyStatus a task).1 = task := by
  unfold applyStatus at h ⊢
  split
  · rfl
  · rename_i newStatus heq
    rw [heq] at h
    dsimp only at h ⊢
    split
    · rename_i hend
      rw [if_pos hend] at h
      simp only [clearTaskRetryState] at h ⊢
      split
      · rename_i hretry
        simp only [hretry, if_true, Bool.or_false, decide_eq_false_iff_not, not_not] at h
        rw [← h]
      · rename_i hretry
        simp [hretry] at h
    · rename_i hend
      rw [if_neg hend] at h
      simp only [decide_eq_false_iff_not, not_not] at h
      rw [← h]

lemma applyResult_eq_self (h : (applyResult a task).2 = false) :
    (applyResult a task).1 = task := by
  unfold applyResult at h ⊢
  split
  · rfl
  · rename_i newResult heq
    simp only [heq, decide_eq_false_iff_not, not_not] at h
    rw [← h]

lemma applyLog_eq_self (h : (applyLog u now a task).2 = false) :
    (applyLog u now a task).1 = task := by
  unfold applyLog at h ⊢
  split
  · rfl
  · rename_i message heq
    rw [heq] at h
    dsimp only at h
    split
    · rfl
    · rename_i hdup
      simp [hdup] at h

lemma applyEvidenceHint_eq_self {prev : TaskStatus}
    (h : (applyEvidenceHint u now prev task).2 = false) :
    (applyEvidenceHint u now prev task).1 = task := by
  unfold applyEvidenceHint at h ⊢
  split
  · rename_i hint
    rw [if_pos hint] at h
    simp at h
  · rfl

/-- An update that reports no change leaves the record as it was. -/
theorem applyUpdate_eq_self (h : (applyUpdate u now a task).2 = false) :
    (applyUpdate u now a task).1 = task := by
  simp only [applyUpdate, Bool.or_eq_false_iff] at h ⊢
  obtain ⟨⟨⟨⟨h₁, h₂⟩, h₃⟩, h₄⟩, h₅⟩ := h
  rw [applyEvidenceHint_eq_self h₅, applyLog_eq_self h₄, applyResult_eq_self h₃,
    applyStatus_eq_self h₂, claimForUpdate_eq_self h₁]

/-! ## What a mutation of one record leaves alone -/

def updateFrame (task : Task) : Task :=
  { task with
    status := .pending
    attemptCount := 0
    lastAttemptAt := none
    nextRetryAt := none
    claimedAt := none
    claimedBy := ""
    claimSource := ""
    result := ""
    logs := [] }

def fixedPart (task : Task) : Task :=
  { updateFrame task with
    version := 0
    dispatchCount := 0
    lastDispatchAt := none
    removedAt := none
    removedBy := ""
    removeReason := ""
    updatedAt := 0 }

lemma fixedPart_of_updateFrame {x : Task} (h : updateFrame x = updateFrame (bump now task)) :
    fixedPart x = fixedPart task := by
  have heq := congrArg fixedPart h
  exact heq

@[simp]
lemma updateFrame_markTaskClaimed (task : Task) (workspace source : String) (now : Timestamp) :
    updateFrame (markTaskClaimed task workspace source now).1 = updateFrame task := by
  unfold markTaskClaimed
  split <;> rfl

@[simp]
lemma updateFrame_clearTaskRetryState (task : Task) :
    updateFrame (clearTaskRetryState task).1 = updateFrame task := by
  unfold clearTaskRetryState
  split <;> rfl

@[simp]
lemma updateFrame_claimForUpdate (now : Timestamp) (a : UpdateArgs) (task : Task) :
    updateFrame (claimForUpdate now a task).1 = updateFrame task := by
  unfold claimForUpdate
  split
  · rfl
  · split
    · exact updateFrame_markTaskClaimed _ _ _ _
    · rfl

@[simp]
lemma updateFrame_applyStatus (a : UpdateArgs) (task : Task) :
    updateFrame (applyStatus a task).1 = updateFrame task := by
  unfold applyStatus
  split
  · rfl
  · dsimp only
    split
    · exact updateFrame_clearTaskRetryState _
    · rfl

@[simp]
lemma updateFrame_applyResult (a : UpdateArgs) (task : Task) :
    updateFrame (applyResult a task).1 = updateFrame task := by
  unfold applyResult
  split <;> rfl

variable (u : Unicode) (now : Timestamp) (a : UpdateArgs) (task : Task)

@[simp]
lemma updateFrame_applyLog : updateFrame (applyLog u now a task).1 = updateFrame task := by
  unfold applyLog
  split
  · rfl
  · split <;> rfl

@[simp]
lemma updateFrame_applyEvidenceHint (prev : TaskStatus) (task : Task) :
    updateFrame (applyEvidenceHint u now prev task).1 = updateFrame task := by
  unfold applyEvidenceHint
  split <;> rfl

lemma updateFrame_applyUpdate :
    updateFrame (bump now (applyUpdate u now a task).1) = updateFrame (bump now task) := by
  have hbody : updateFrame (applyUpdate u now a task).1 = updateFrame task := by
    simp [applyUpdate]
  have heq := congrArg (bump now) hbody
  exact heq

def outcome (task : Task) : TaskStatus × String :=
  (task.status, task.result)

@[simp]
lemma outcome_claimForUpdate : outcome (claimForUpdate now a task).1 = outcome task := by
  unfold claimForUpdate markTaskClaimed
  split
  · rfl
  · split
    · split <;> rfl
    · rfl

@[simp]
lemma outcome_applyStatus :
    outcome (applyStatus a task).1 = (a.status.getD task.status, task.result) := by
  unfold applyStatus clearTaskRetryState
  cases a.status with
  | none => rfl
  | some newStatus =>
    dsimp only
    split
    · split <;> rfl
    · rfl

@[simp]
lemma outcome_applyResult :
    outcome (applyResult a task).1 = (task.status, a.result.getD task.result) := by
  unfold applyResult
  cases a.result <;> rfl

@[simp]
lemma outcome_applyLog : outcome (applyLog u now a task).1 = outcome task := by
  unfold applyLog
  split
  · rfl
  · split <;> rfl

@[simp]
lemma outcome_applyEvidenceHint (prev : TaskStatus) (task : Task) :
    outcome (applyEvidenceHint u now prev task).1 = outcome task := by
  unfold applyEvidenceHint
  split <;> rfl

lemma outcome_applyUpdate :
    outcome (applyUpdate u now a task).1 =
      (a.status.getD task.status, a.result.getD task.result) := by
  have hclaim := outcome_claimForUpdate now a task
  have hstatus := outcome_applyStatus a (claimForUpdate now a task).1
  simp only [outcome, Prod.mk.injEq] at hclaim hstatus
  simp only [applyUpdate, outcome_applyEvidenceHint, outcome_applyLog, outcome_applyResult,
    hstatus, hclaim]

lemma applyUpdate_status : (applyUpdate u now a task).1.status = a.status.getD task.status :=
  congrArg Prod.fst (outcome_applyUpdate u now a task)

lemma applyUpdate_result : (applyUpdate u now a task).1.result = a.result.getD task.result :=
  congrArg Prod.snd (outcome_applyUpdate u now a task)

/-! ## The bodies of the control operations -/

def controlMessage (head reason : String) : String :=
  let trimmed := Text.trim reason
  if trimmed = "" then head else s!"{head}: {trimmed}"

/-- The field changes of `cancel`. -/
def cancelRecord (now : Timestamp) (reason workspace : String) (task : Task) : Task :=
  let msg := controlMessage s!"Cancelled by {workspace}" reason
  let claimed :=
    if workspace = task.assignee then (markTaskClaimed task workspace "cancel" now).1 else task
  bump now (pushLog { claimed with status := .cancelled, result := msg } now workspace msg)

/-- The field changes of `remove`; the update stamp stays. -/
def removeRecord (now : Timestamp) (reason workspace : String) (task : Task) : Task :=
  bumpVersion { task with
    removedAt := some now
    removedBy := workspace
    removeReason := Text.trim reason }

/-- The field changes of `retry`. -/
def retryRecord (now : Timestamp) (note workspace : String) (task : Task) : Task :=
  let msg := controlMessage s!"Recovery action: retry requested by {workspace}" note
  let reset := clearTaskClaim { task with status := .pending, result := "" }
  bump now (pushLog (clearTaskRetryState reset).1 now workspace msg)

/-- The field changes of one task in `recover_stale_in_progress`. -/
def recoverRecord (u : Unicode) (now : Timestamp) (task : Task) : Task :=
  let reset := clearTaskClaim { task with status := .pending }
  bump now (pushLog (clearTaskRetryState reset).1 now operatorWorkspaceName
    (s!"Recovery on startup: assignee session {Text.debugStr u task.assignee} not found; " ++
      "reset in_progress -> pending"))

@[simp]
lemma retryRecord_status (note workspace : String) (task : Task) :
    (retryRecord now note workspace task).status = .pending := by
  unfold retryRecord clearTaskRetryState
  dsimp only
  split <;> rfl

@[simp]
lemma recoverRecord_status : (recoverRecord u now task).status = .pending := by
  unfold recoverRecord clearTaskRetryState
  dsimp only
  split <;> rfl

lemma updateFrame_cancelRecord (reason workspace : String) (task : Task) :
    updateFrame (cancelRecord now reason workspace task) = updateFrame (bump now task) := by
  unfold cancelRecord
  dsimp only
  split
  · have heq := congrArg (bump now) (updateFrame_markTaskClaimed task workspace "cancel" now)
    exact heq
  · rfl

lemma updateFrame_retryRecord (note workspace : String) (task : Task) :
    updateFrame (retryRecord now note workspace task) = updateFrame (bump now task) := by
  unfold retryRecord clearTaskRetryState
  dsimp only
  split <;> rfl

lemma updateFrame_recoverRecord :
    updateFrame (recoverRecord u now task) = updateFrame (bump now task) := by
  unfold recoverRecord clearTaskRetryState
  dsimp only
  split <;> rfl

@[simp]
lemma recoverRecord_id : (recoverRecord u now task).id = task.id := by
  have heq := congrArg Task.id (updateFrame_recoverRecord u now task)
  exact heq

lemma recoverRecord_removedAt : (recoverRecord u now task).removedAt = task.removedAt := by
  have heq := congrArg Task.removedAt (updateFrame_recoverRecord u now task)
  exact heq

def effectiveStamp (now stamp : Timestamp) : Timestamp :=
  if stamp.timestamp = 0 then now else stamp

/-- The field changes of `mark_tool_activity`. -/
def toolActivityRecord (stamp : Timestamp) (task : Task) : Task :=
  bump stamp task

/-- The field changes of `record_dispatch`. -/
def dispatchRecord (stamp : Timestamp) (task : Task) : Task :=
  bump stamp { task with
    dispatchCount := task.dispatchCount + 1
    lastDispatchAt := some stamp }

def clearDerivedFields (task : Task) : Task :=
  { task with sequence := none, staleInfo := none }

end Ax.Daemon
