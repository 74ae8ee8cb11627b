import Ax.Foundation.Execution
import Ax.Foundation.Result
import Ax.Daemon.TaskStore.Operations

/-!
# Runs of the task store

Any sequence of calls of the eight mutating operations, with any arguments and
any outcomes, is an execution of `StoreStep`.  What a call can do to the
records is said once, by `Effect`, and every effect is a chain of the four
elementary changes of `MapStep`.  The invariants of the store are proved for
one of the two and follow for whole runs.

Main results:

- Theorem `StoreCall.effect`: every call has one of the listed effects.
- Theorem `RecordRelation.storeRun`: what every change of a single record respects holds
  between the records at the two ends of a run.
-/

namespace Ax.Daemon

open TaskStore

inductive StoreOp
  | create (id : String) (input : CreateTaskInput)
  | updateWithConfirm (id : String) (a : UpdateArgs)
  | cancel (id reason workspace : String) (expectedVersion : Option Int)
  | remove (id reason workspace : String) (expectedVersion : Option Int)
  | retry (id note workspace : String) (expectedVersion : Option Int)
  | recordDispatch (id recipient : String) (when_ : Timestamp)
  | markToolActivity (id by_ : String) (when_ : Timestamp)
  | recoverStaleInProgress (isSessionLive : String → Bool)

/-- An operation with its readings of the outside. -/
structure StoreCall where
  env : StoreEnv
  op : StoreOp

namespace StoreCall

def apply (c : StoreCall) (s : TaskStore) : TaskStore :=
  match c.op with
  | .create id input => (s.create c.env id input).2
  | .updateWithConfirm id a => (s.updateWithConfirm c.env id a).2
  | .cancel id reason workspace expected => (s.cancel c.env id reason workspace expected).2
  | .remove id reason workspace expected => (s.remove c.env id reason workspace expected).2
  | .retry id note workspace expected => (s.retry c.env id note workspace expected).2
  | .recordDispatch id recipient when_ => (s.recordDispatch c.env id recipient when_).2
  | .markToolActivity id by_ when_ => (s.markToolActivity c.env id by_ when_).2
  | .recoverStaleInProgress isSessionLive => (s.recoverStaleInProgress c.env isSessionLive).2

def Fresh (c : StoreCall) (s : TaskStore) : Prop :=
  match c.op with
  | .create id input => s.inner.get id = none ∧ id ≠ Text.trim input.parentTaskId
  | _ => True

instance (c : StoreCall) (s : TaskStore) : Decidable (c.Fresh s) :=
  match c with
  | ⟨_, .create _ _⟩ => inferInstanceAs (Decidable (_ ∧ _))
  | ⟨_, .updateWithConfirm ..⟩ | ⟨_, .cancel ..⟩ | ⟨_, .remove ..⟩ | ⟨_, .retry ..⟩
  | ⟨_, .recordDispatch ..⟩ | ⟨_, .markToolActivity ..⟩ | ⟨_, .recoverStaleInProgress ..⟩ =>
    inferInstanceAs (Decidable True)

def isQuiet (c : StoreCall) : Bool :=
  match c.op with
  | .recordDispatch .. | .markToolActivity .. => true
  | _ => false

end StoreCall

/-- One step of the store. -/
def StoreStep (s : TaskStore) (c : StoreCall) (s' : TaskStore) : Prop :=
  c.Fresh s ∧ s' = c.apply s

lemma StoreStep.deterministic (s : TaskStore) (c : StoreCall) (s₁ s₂ : TaskStore)
    (h₁ : StoreStep s c s₁) (h₂ : StoreStep s c s₂) : s₁ = s₂ :=
  h₁.2.trans h₂.2.symm

def applyAll (s : TaskStore) (calls : List StoreCall) : TaskStore :=
  calls.foldl (fun s c => c.apply s) s

def FreshAll : TaskStore → List StoreCall → Prop
  | _, [] => True
  | s, c :: rest => c.Fresh s ∧ FreshAll (c.apply s) rest

instance : (s : TaskStore) → (calls : List StoreCall) → Decidable (FreshAll s calls)
  | _, [] => inferInstanceAs (Decidable True)
  | s, c :: rest =>
    have : Decidable (FreshAll (c.apply s) rest) := instDecidableFreshAll (c.apply s) rest
    inferInstanceAs (Decidable (_ ∧ _))

variable {s : TaskStore} {t : Task} {workspace id : String} {isSessionLive : String → Bool}
  {m : TaskMap} {now : Timestamp} {u : Unicode} {c : StoreCall}

lemma exec_applyAll {calls : List StoreCall} (h : FreshAll s calls) :
    Exec StoreStep s calls (applyAll s calls) := by
  induction calls generalizing s with
  | nil => exact Exec.nil s
  | cons c rest ih => exact Exec.cons ⟨h.1, rfl⟩ (ih h.2)

/-- A call at time `now` whose write succeeds. -/
def callAt (now : Timestamp) (op : StoreOp) : StoreCall :=
  ⟨⟨Unicode.ascii, now, .done⟩, op⟩

/-- A creation request that chooses nothing but names. -/
def plainInput (assignee createdBy parentTaskId : String) : CreateTaskInput where
  title := ""
  description := ""
  assignee := assignee
  createdBy := createdBy
  parentTaskId := parentTaskId
  startMode := .default
  workflowMode := .parallel
  priority := .normal
  staleAfterSeconds := 0
  dispatchBody := ""
  dispatchConfigPath := ""

/-! ## Mutations of one record -/

inductive Touch (c : StoreCall) (t : Task) : Task → Prop
  | updated {a : UpdateArgs} (hop : c.op = .updateWithConfirm t.id a)
      (hvalid : validateTaskUpdate t a = .ok ())
      (hchanged : (applyUpdate c.env.unicode c.env.now a t).2 = true) :
      Touch c t (bump c.env.now (applyUpdate c.env.unicode c.env.now a t).1)
  | cancelled {reason workspace : String} {expected : Option Int}
      (hop : c.op = .cancel t.id reason workspace expected)
      (hvalid : validateTaskControl t workspace expected true = .ok ())
      (hopen : isTerminalStatus t.status = false) :
      Touch c t (cancelRecord c.env.now reason workspace t)
  | removed {reason workspace : String} {expected : Option Int}
      (hop : c.op = .remove t.id reason workspace expected)
      (hvalid : validateTaskControl t workspace expected false = .ok ())
      (hterminal : isTerminalStatus t.status = true) :
      Touch c t (removeRecord c.env.now reason workspace t)
  | retried {note workspace : String} {expected : Option Int}
      (hop : c.op = .retry t.id note workspace expected)
      (hvalid : validateTaskControl t workspace expected true = .ok ())
      (hopen : isOpenStatus t.status = true) :
      Touch c t (retryRecord c.env.now note workspace t)
  | recovered {isSessionLive : String → Bool}
      (hop : c.op = .recoverStaleInProgress isSessionLive)
      (hstale : isStaleInProgress isSessionLive t = true) :
      Touch c t (recoverRecord c.env.unicode c.env.now t)
  | dispatched {recipient : String} {when_ : Timestamp}
      (hop : c.op = .recordDispatch t.id recipient when_)
      (hlive : t.removedAt = none) (hassignee : t.assignee = recipient) :
      Touch c t (dispatchRecord (effectiveStamp c.env.now when_) t)
  | active {by_ : String} {when_ : Timestamp}
      (hop : c.op = .markToolActivity t.id by_ when_)
      (hlive : t.removedAt = none) (hrunning : t.status = .inProgress)
      (hassignee : t.assignee = by_) :
      Touch c t (toolActivityRecord (effectiveStamp c.env.now when_) t)

lemma running_of_stale (h : isStaleInProgress isSessionLive t = true) :
    t.status = .inProgress := by
  simp only [isStaleInProgress, Bool.and_eq_true, decide_eq_true_eq] at h
  exact h.1.1.2

lemma not_removed_of_validateTaskUpdate {a : UpdateArgs} (h : validateTaskUpdate t a = .ok ()) :
    t.removedAt = none :=
  (validateTaskUpdate_eq_ok_iff.mp h).live

lemma not_removed_of_validateTaskControl {expected : Option Int} {allowAssignee : Bool}
    (h : validateTaskControl t workspace expected allowAssignee = .ok ()) : t.removedAt = none := by
  unfold validateTaskControl at h
  split at h
  · cases h
  · rename_i hlive
    exact Option.not_isSome_iff_eq_none.mp hlive

lemma version_of_validateTaskControl {want : Int} {allowAssignee : Bool}
    (h : validateTaskControl t workspace (some want) allowAssignee = .ok ()) :
    t.version = want := by
  unfold validateTaskControl at h
  split at h
  · cases h
  · by_contra hne
    simp [Option.filter, hne] at h

lemma status_of_validateTaskUpdate {a : UpdateArgs} (h : validateTaskUpdate t a = .ok ())
    (hterminal : isTerminalStatus t.status = true) : a.status.getD t.status = t.status := by
  cases hstatus : a.status with
  | none => rfl
  | some newStatus =>
    have hchange := (validateTaskUpdate_eq_ok_iff.mp h).status newStatus hstatus
    exact isAllowedTransition_of_terminal hterminal (validateStatusChange_eq_ok_iff.mp hchange).2.1

/-! ## Calls about one record -/

/-- What a call about the task `id` comes to: it commits the rewritten record of a task that
passes its check; otherwise it leaves the store alone, and answers with an error or with the
record that it found. -/
inductive Rewriting (env : StoreEnv) (s : TaskStore) (id : String) (check keeps : Task → Prop)
    (rewrite : Task → Task) : Except TaskStoreError Task × TaskStore → Prop
  | refused (e : TaskStoreError) (hrefused : ∀ t, s.inner.get id = some t → ¬check t) :
      Rewriting env s id check keeps rewrite (.error e, s)
  | kept {t : Task} (hget : s.inner.get id = some t) (hkeeps : keeps t) (hfails : ¬check t) :
      Rewriting env s id check keeps rewrite (.ok t, s)
  | committed {t : Task} (hget : s.inner.get id = some t) (hcheck : check t) :
      Rewriting env s id check keeps rewrite
        (commit env s (storeAndRefresh s.inner (rewrite t) env.now) (rewrite t))

section Rewriting

variable {env : StoreEnv} {s : TaskStore} {id workspace : String} {expected : Option Int}

lemma rewriting_update {a : UpdateArgs} :
    Rewriting env s id
      (fun t => validateTaskUpdate t a = .ok () ∧
        (applyUpdate env.unicode env.now a t).2 = true)
      (fun t => validateTaskUpdate t a = .ok () ∧
        (applyUpdate env.unicode env.now a t).2 = false)
      (fun t => bump env.now (applyUpdate env.unicode env.now a t).1)
      (s.updateWithConfirm env id a) := by
  unfold updateWithConfirm
  cases hget : s.inner.get id with
  | none => exact .refused _ (by simp [hget])
  | some t =>
    cases hvalid : validateTaskUpdate t a with
    | error e => simpa only [hvalid] using .refused e (by simp [hget, hvalid])
    | ok =>
      cases hchanged : (applyUpdate env.unicode env.now a t).2 with
      | false =>
        simpa [hvalid, hchanged] using .kept hget ⟨hvalid, hchanged⟩ (by simp [hchanged])
      | true => simpa [hvalid, hchanged] using .committed hget ⟨hvalid, hchanged⟩

/-- The check of a cancellation. -/
theorem rewriting_cancel {reason : String} :
    Rewriting env s id
      (fun t => validateTaskControl t workspace expected true = .ok () ∧
        isTerminalStatus t.status = false)
      (fun _ => False) (cancelRecord env.now reason workspace)
      (s.cancel env id reason workspace expected) := by
  unfold cancel
  cases hget : s.inner.get id with
  | none => exact .refused _ (by simp [hget])
  | some t =>
    cases hvalid : validateTaskControl t workspace expected true with
    | error e => simpa only [hvalid] using .refused e (by simp [hget, hvalid])
    | ok =>
      cases hended : isTerminalStatus t.status with
      | true => simpa [hvalid, hended] using .refused _ (by simp [hget, hended])
      | false => simpa [hvalid, hended] using .committed hget ⟨hvalid, hended⟩

lemma rewriting_remove {reason : String} :
    Rewriting env s id
      (fun t => validateTaskControl t workspace expected false = .ok () ∧
        isTerminalStatus t.status = true)
      (fun _ => False) (removeRecord env.now reason workspace)
      (s.remove env id reason workspace expected) := by
  unfold remove
  cases hget : s.inner.get id with
  | none => exact .refused _ (by simp [hget])
  | some t =>
    cases hvalid : validateTaskControl t workspace expected false with
    | error e => simpa only [hvalid] using .refused e (by simp [hget, hvalid])
    | ok =>
      have hlive := not_removed_of_validateTaskControl hvalid
      cases hended : isTerminalStatus t.status with
      | false => simpa [hvalid, hlive, hended] using .refused _ (by simp [hget, hended])
      | true => simpa [hvalid, hlive, hended] using .committed hget ⟨hvalid, hended⟩

lemma rewriting_retry {note : String} :
    Rewriting env s id
      (fun t => validateTaskControl t workspace expected true = .ok () ∧
        isOpenStatus t.status = true)
      (fun _ => False) (retryRecord env.now note workspace)
      (s.retry env id note workspace expected) := by
  unfold retry
  cases hget : s.inner.get id with
  | none => exact .refused _ (by simp [hget])
  | some t =>
    cases hvalid : validateTaskControl t workspace expected true with
    | error e => simpa only [hvalid] using .refused e (by simp [hget, hvalid])
    | ok =>
      cases hopen : isOpenStatus t.status with
      | false => simpa [hvalid, hopen] using .refused _ (by simp [hget, hopen])
      | true => simpa [hvalid, hopen] using .committed hget ⟨hvalid, hopen⟩

/-- What a dispatch record or a heartbeat comes to. -/
inductive Stamping (env : StoreEnv) (s : TaskStore) (id : String) (check : Task → Prop)
    (stamp : Task → Task) : Option Task × TaskStore → Prop
  | refused (hrefused : ∀ t, s.inner.get id = some t → ¬check t) :
      Stamping env s id check stamp (none, s)
  | stored {t : Task} (hget : s.inner.get id = some t) (hcheck : check t) :
      Stamping env s id check stamp (storeQuietly env s (stamp t))

lemma stamping_dispatch {recipient : String} {when_ : Timestamp} :
    Stamping env s id (fun t => t.removedAt = none ∧ t.assignee = recipient)
      (dispatchRecord (effectiveStamp env.now when_))
      (s.recordDispatch env id recipient when_) := by
  unfold recordDispatch
  cases hget : s.inner.get id with
  | none => exact .refused (by simp [hget])
  | some t =>
    dsimp only
    split
    · exact .refused (by grind)
    · exact .stored hget (by simp_all)

lemma stamping_activity {by_ : String} {when_ : Timestamp} :
    Stamping env s id
      (fun t => t.removedAt = none ∧ t.status = .inProgress ∧ t.assignee = by_)
      (toolActivityRecord (effectiveStamp env.now when_))
      (s.markToolActivity env id by_ when_) := by
  unfold markToolActivity
  cases hget : s.inner.get id with
  | none => exact .refused (by simp [hget])
  | some t =>
    dsimp only
    split
    · exact .refused (by grind)
    · exact .stored hget (by simp_all)

lemma getForIntervention_eq_ok_iff {t : Task} :
    s.getForIntervention id workspace expected = .ok t ↔ s.inner.get id = some t ∧
      validateTaskControl t workspace expected true = .ok () ∧ isOpenStatus t.status = true := by
  unfold getForIntervention
  cases hget : s.inner.get id with
  | none => simp
  | some t' =>
    cases hvalid : validateTaskControl t' workspace expected true with
    | error e => simp; grind
    | ok => cases hopen : isOpenStatus t'.status <;> simp <;> grind

variable {check keeps : Task → Prop} {rewrite : Task → Task}
  {answer : Except TaskStoreError Task × TaskStore}

namespace Rewriting

lemma of_ok (h : Rewriting env s id check keeps rewrite answer) {task : Task}
    (hok : answer.1 = .ok task) :
    ∃ t, s.inner.get id = some t ∧ ((task = t ∧ keeps t ∧ answer.2 = s) ∨ (check t ∧
      answer = commit env s (storeAndRefresh s.inner (rewrite t) env.now) (rewrite t))) := by
  cases h with
  | refused => cases hok
  | kept hget hkeeps => exact ⟨_, hget, .inl ⟨(Except.ok.inj hok).symm, hkeeps, rfl⟩⟩
  | committed hget hcheck => exact ⟨_, hget, .inr ⟨hcheck, rfl⟩⟩

end Rewriting

end Rewriting

namespace Touch

variable {c : StoreCall} {t t' : Task}

variable (h : Touch c t t')
include h

lemma frame_cases :
    updateFrame t' = updateFrame (bump c.env.now t) ∨
      (∃ reason workspace, t' = removeRecord c.env.now reason workspace t) ∨
      (∃ recipient when_, c.op = .recordDispatch t.id recipient when_ ∧
        t' = dispatchRecord (effectiveStamp c.env.now when_) t) ∨
      ∃ stamp, t' = toolActivityRecord stamp t := by
  cases h with
  | updated => exact Or.inl (updateFrame_applyUpdate _ _ _ t)
  | cancelled => exact Or.inl (updateFrame_cancelRecord _ _ _ t)
  | removed => exact Or.inr (Or.inl ⟨_, _, rfl⟩)
  | retried => exact Or.inl (updateFrame_retryRecord _ _ _ t)
  | recovered => exact Or.inl (updateFrame_recoverRecord _ _ t)
  | dispatched hop => exact Or.inr (Or.inr (Or.inl ⟨_, _, hop, rfl⟩))
  | active => exact Or.inr (Or.inr (Or.inr ⟨_, rfl⟩))

lemma fixedPart_eq : fixedPart t' = fixedPart t := by
  rcases h.frame_cases with hframe | ⟨_, _, rfl⟩ | ⟨_, _, _, rfl⟩ | ⟨_, rfl⟩
  · exact fixedPart_of_updateFrame hframe
  · rfl
  · rfl
  · rfl

lemma id_eq : t'.id = t.id := by
  have heq := congrArg Task.id h.fixedPart_eq
  exact heq

lemma parentTaskId_eq : t'.parentTaskId = t.parentTaskId := by
  have heq := congrArg Task.parentTaskId h.fixedPart_eq
  exact heq

lemma childTaskIds_eq : t'.childTaskIds = t.childTaskIds := by
  have heq := congrArg Task.childTaskIds h.fixedPart_eq
  exact heq

lemma rollup_eq : t'.rollup = t.rollup := by
  have heq := congrArg Task.rollup h.fixedPart_eq
  exact heq

lemma not_removed : t.removedAt = none := by
  cases h with
  | updated _ hvalid => exact not_removed_of_validateTaskUpdate hvalid
  | cancelled _ hvalid => exact not_removed_of_validateTaskControl hvalid
  | removed _ hvalid => exact not_removed_of_validateTaskControl hvalid
  | retried _ hvalid => exact not_removed_of_validateTaskControl hvalid
  | recovered _ hstale =>
    simp only [isStaleInProgress, Bool.and_eq_true, Option.isNone_iff_eq_none] at hstale
    exact hstale.1.1.1
  | dispatched _ hlive => exact hlive
  | active _ hlive => exact hlive

lemma version_eq : t'.version = t.version + 1 := by
  rcases h.frame_cases with hframe | ⟨_, _, rfl⟩ | ⟨_, _, _, rfl⟩ | ⟨_, rfl⟩
  · have heq := congrArg Task.version hframe
    exact heq
  · rfl
  · rfl
  · rfl

lemma status_eq_of_terminal (hterminal : isTerminalStatus t.status = true) :
    t'.status = t.status := by
  cases h with
  | updated _ hvalid =>
    show (applyUpdate _ _ _ t).1.status = t.status
    rw [applyUpdate_status]
    exact status_of_validateTaskUpdate hvalid hterminal
  | cancelled _ _ hopen => rw [hopen] at hterminal; cases hterminal
  | removed => rfl
  | retried _ _ hopen => cases hs : t.status <;> simp_all [isTerminalStatus, isOpenStatus]
  | recovered _ hstale =>
    simp only [isStaleInProgress, Bool.and_eq_true, decide_eq_true_eq] at hstale
    rw [hstale.1.1.2] at hterminal
    cases hterminal
  | dispatched => rfl
  | active => rfl

end Touch

/-! ## Effects of a call -/

/-- What a call can do to the records of the store. -/
inductive Effect (c : StoreCall) (m : TaskMap) : TaskMap → Prop
  | unchanged : Effect c m m
  | rewritten {t t' : Task} (hget : m.get t.id = some t) (htouch : Touch c t t')
      (hloud : c.isQuiet = false) : Effect c m (storeAndRefresh m t' c.env.now)
  | stamped {t t' : Task} (hget : m.get t.id = some t) (htouch : Touch c t t')
      (hquiet : c.isQuiet = true) : Effect c m (m.put t')
  | createdRoot {id : String} {input : CreateTaskInput} (hop : c.op = .create id input)
      (hfresh : m.get id = none) (hroot : Text.trim input.parentTaskId = "") :
      Effect c m (m.put (newTask c.env.now id input))
  | createdChild {id : String} {input : CreateTaskInput} {parent : Task}
      (hop : c.op = .create id input) (hfresh : m.get id = none)
      (hchild : Text.trim input.parentTaskId ≠ "")
      (hparent : m.get (Text.trim input.parentTaskId) = some parent)
      (hlive : parent.removedAt = none) :
      Effect c m (refreshParentRollup
        ((m.put (newTask c.env.now id input)).put (adoptChild c.env.now parent id))
        (Text.trim input.parentTaskId) c.env.now)
  | recovered {isSessionLive : String → Bool}
      (hop : c.op = .recoverStaleInProgress isSessionLive) :
      Effect c m (recoverAll c.env.unicode c.env.now (recoverCandidates isSessionLive m) m)

namespace StoreCall

variable {c : StoreCall} {s : TaskStore}

lemma effect_create {id : String} {input : CreateTaskInput} (hop : c.op = .create id input)
    (hfresh : c.Fresh s) : Effect c s.inner (s.create c.env id input).2.inner := by
  simp only [Fresh, hop] at hfresh
  obtain ⟨hnone, hne⟩ := hfresh
  have hundo : (s.inner.put (newTask c.env.now id input)).remove id = s.inner :=
    KeyedMap.remove_put (v := newTask c.env.now id input) hnone
  have hlookup : (s.inner.put (newTask c.env.now id input)).get (Text.trim input.parentTaskId) =
      s.inner.get (Text.trim input.parentTaskId) :=
    KeyedMap.get_put_of_ne _ (Ne.symm hne)
  unfold create
  dsimp only
  split
  · rename_i hroot
    rw [commit_inner]
    exact Effect.createdRoot hop hnone hroot
  · rename_i hchild
    rw [show (newTask c.env.now id input).parentTaskId = Text.trim input.parentTaskId from rfl,
      hlookup]
    cases hparent : s.inner.get (Text.trim input.parentTaskId) with
    | none =>
      simp only [hundo]
      exact Effect.unchanged
    | some parent =>
      dsimp only
      split
      · simp only [hundo]
        exact Effect.unchanged
      · rename_i hlive
        rw [commit_inner]
        exact Effect.createdChild hop hnone hchild hparent (Option.not_isSome_iff_eq_none.mp hlive)

variable {id : String}

lemma effect_of_rewriting {check keeps : Task → Prop} {rewrite : Task → Task}
    {answer : Except TaskStoreError Task × TaskStore}
    (h : Rewriting c.env s id check keeps rewrite answer) (hloud : c.isQuiet = false)
    (htouch : ∀ t, t.id = id → check t → Touch c t (rewrite t)) :
    Effect c s.inner answer.2.inner := by
  cases h with
  | refused | kept => exact .unchanged
  | committed hget hcheck =>
    obtain rfl := KeyedMap.key_of_get hget
    rw [commit_inner]
    exact .rewritten hget (htouch _ rfl hcheck) hloud

lemma effect_of_stamping {check : Task → Prop} {stamp : Task → Task}
    {answer : Option Task × TaskStore} (h : Stamping c.env s id check stamp answer)
    (hquiet : c.isQuiet = true) (htouch : ∀ t, t.id = id → check t → Touch c t (stamp t)) :
    Effect c s.inner answer.2.inner := by
  cases h with
  | refused => exact .unchanged
  | stored hget hcheck =>
    obtain rfl := KeyedMap.key_of_get hget
    simp only [storeQuietly, persistLocked_inner]
    exact .stamped hget (htouch _ rfl hcheck) hquiet

lemma effect_recover {isSessionLive : String → Bool}
    (hop : c.op = .recoverStaleInProgress isSessionLive) :
    Effect c s.inner (s.recoverStaleInProgress c.env isSessionLive).2.inner := by
  unfold recoverStaleInProgress
  dsimp only
  split
  · exact Effect.unchanged
  · rw [persistLocked_inner]
    exact Effect.recovered hop

/-- Every call has one of the listed effects. -/
theorem effect (hfresh : c.Fresh s) : Effect c s.inner (c.apply s).inner := by
  unfold apply
  cases hop : c.op with
  | create id input => exact effect_create hop hfresh
  | updateWithConfirm id a =>
    refine effect_of_rewriting rewriting_update (by simp [isQuiet, hop]) ?_
    rintro t rfl ⟨hvalid, hchanged⟩
    exact .updated hop hvalid hchanged
  | cancel id reason workspace expected =>
    refine effect_of_rewriting rewriting_cancel (by simp [isQuiet, hop]) ?_
    rintro t rfl ⟨hvalid, hopen⟩
    exact .cancelled hop hvalid hopen
  | remove id reason workspace expected =>
    refine effect_of_rewriting rewriting_remove (by simp [isQuiet, hop]) ?_
    rintro t rfl ⟨hvalid, hterminal⟩
    exact .removed hop hvalid hterminal
  | retry id note workspace expected =>
    refine effect_of_rewriting rewriting_retry (by simp [isQuiet, hop]) ?_
    rintro t rfl ⟨hvalid, hopen⟩
    exact .retried hop hvalid hopen
  | recordDispatch id recipient when_ =>
    refine effect_of_stamping stamping_dispatch (by simp [isQuiet, hop]) ?_
    rintro t rfl ⟨hlive, hassignee⟩
    exact .dispatched hop hlive hassignee
  | markToolActivity id by_ when_ =>
    refine effect_of_stamping stamping_activity (by simp [isQuiet, hop]) ?_
    rintro t rfl ⟨hlive, hrunning, hassignee⟩
    exact .active hop hlive hrunning hassignee
  | recoverStaleInProgress isSessionLive => exact effect_recover hop

end StoreCall

/-! ## Elementary changes -/

/-- The elementary changes of the records during a call that found the records
`before`.  A mutation always acts on a record as the call found it. -/
inductive MapStep (c : StoreCall) (before m : TaskMap) : TaskMap → Prop
  | touch {t t' : Task} (hbefore : before.get t.id = some t) (hget : m.get t.id = some t)
      (htouch : Touch c t t') : MapStep c before m (m.put t')
  | refresh (parentId : String) : MapStep c before m (refreshParentRollup m parentId c.env.now)
  | insert {id : String} {input : CreateTaskInput} (hfresh : m.get id = none)
      (hparent : Text.trim input.parentTaskId ≠ "" →
        ∃ p, m.get (Text.trim input.parentTaskId) = some p) :
      MapStep c before m (m.put (newTask c.env.now id input))
  | adopt {parent child : Task} (hget : m.get parent.id = some parent)
      (hlive : parent.removedAt = none) (hchild : m.get child.id = some child)
      (hlink : child.parentTaskId = parent.id) (hnamed : parent.id ≠ "") :
      MapStep c before m (m.put (adoptChild c.env.now parent child.id))

/-- The records change by a chain of elementary changes. -/
abbrev MapSteps (c : StoreCall) (before : TaskMap) : TaskMap → TaskMap → Prop :=
  Relation.ReflTransGen (MapStep c before)

@[simp]
lemma adoptChild_id (now : Timestamp) (parent : Task) (childId : String) :
    (adoptChild now parent childId).id = parent.id := by
  unfold adoptChild
  split <;> rfl

lemma nodup_recoverCandidates (isSessionLive : String → Bool) (m : TaskMap) :
    (recoverCandidates isSessionLive m).Nodup :=
  List.Nodup.sublist (List.filter_sublist.map Task.id) (KeyedMap.nodup_map_values m)

lemma stale_of_mem_recoverCandidates (h : id ∈ recoverCandidates isSessionLive m) :
    ∃ t, m.get id = some t ∧ isStaleInProgress isSessionLive t = true := by
  obtain ⟨t, hmem, rfl⟩ := List.mem_map.mp h
  obtain ⟨hvalue, hstale⟩ := List.mem_filter.mp hmem
  exact ⟨t, KeyedMap.mem_values_iff.mp hvalue, hstale⟩

lemma recoverOne_of_get {acc : TaskMap × List String} (hget : acc.1.get id = some t) :
    recoverOne u now acc id =
      (acc.1.put (recoverRecord u now t),
        if t.parentTaskId = "" then acc.2 else acc.2 ++ [t.parentTaskId]) := by
  simp only [recoverOne, hget]

lemma foldl_recoverOne_induction {before : TaskMap} {P : TaskMap × List String → Prop}
    (hstep : ∀ acc t, P acc → before.get t.id = some t → acc.1.get t.id = some t →
      isStaleInProgress isSessionLive t = true → P (recoverOne u now acc t.id))
    (candidates : List String) (acc : TaskMap × List String) (hnodup : candidates.Nodup)
    (hstale : ∀ id ∈ candidates, ∃ t, before.get id = some t ∧ acc.1.get id = some t ∧
      isStaleInProgress isSessionLive t = true) (hstart : P acc) :
    P (candidates.foldl (recoverOne u now) acc) := by
  induction candidates generalizing acc with
  | nil => exact hstart
  | cons id rest ih =>
    obtain ⟨t, hbefore, hget, ht⟩ := hstale id List.mem_cons_self
    obtain ⟨hnotin, hrest⟩ := List.nodup_cons.mp hnodup
    obtain rfl := KeyedMap.key_of_get hget
    refine ih _ hrest ?_ (hstep acc t hstart hbefore hget ht)
    intro id' hmem
    rw [recoverOne_of_get hget, KeyedMap.get_put_of_ne]
    · exact hstale id' (List.mem_cons_of_mem _ hmem)
    · rw [recoverRecord_id]
      rintro rfl
      exact hnotin hmem

lemma recoverCandidates_induction {u : Unicode} {now : Timestamp}
    {isSessionLive : String → Bool} {m : TaskMap} {P : TaskMap × List String → Prop}
    (hstep : ∀ acc t, P acc → m.get t.id = some t → acc.1.get t.id = some t →
      isStaleInProgress isSessionLive t = true → P (recoverOne u now acc t.id))
    (hstart : P (m, [])) :
    P ((recoverCandidates isSessionLive m).foldl (recoverOne u now) (m, [])) := by
  refine foldl_recoverOne_induction hstep _ (m, []) (nodup_recoverCandidates _ m) ?_ hstart
  intro id hmem
  obtain ⟨t, hget, hstale⟩ := stale_of_mem_recoverCandidates hmem
  exact ⟨t, hget, hget, hstale⟩

lemma mapSteps_refresh (c : StoreCall) (before : TaskMap) (parents : List String) (m : TaskMap) :
    MapSteps c before m
      (parents.foldl (fun all parentId => refreshParentRollup all parentId c.env.now) m) := by
  induction parents generalizing m with
  | nil => exact Relation.ReflTransGen.refl
  | cons parentId rest ih =>
    rw [List.foldl_cons]
    exact Relation.ReflTransGen.head (MapStep.refresh parentId) (ih _)

lemma Effect.mapSteps {m' : TaskMap} (h : Effect c m m') : MapSteps c m m m' := by
  cases h with
  | unchanged => exact Relation.ReflTransGen.refl
  | rewritten hget htouch =>
    exact Relation.ReflTransGen.head (MapStep.touch hget hget htouch)
      (Relation.ReflTransGen.single (MapStep.refresh _))
  | stamped hget htouch => exact Relation.ReflTransGen.single (MapStep.touch hget hget htouch)
  | createdRoot _ hfresh hroot =>
    exact Relation.ReflTransGen.single (MapStep.insert hfresh fun hchild => absurd hroot hchild)
  | @createdChild id input parent _ hfresh hchild hparent hlive =>
    have hid : parent.id = Text.trim input.parentTaskId := KeyedMap.key_of_get hparent
    have hne : Text.trim input.parentTaskId ≠ id := by
      rintro heq
      rw [heq, hfresh] at hparent
      cases hparent
    have hget : (m.put (newTask c.env.now id input)).get parent.id = some parent := by
      rw [hid, KeyedMap.get_put_of_ne _ hne]
      exact hparent
    have hadopt : MapStep c m (m.put (newTask c.env.now id input)) _ :=
      MapStep.adopt hget hlive (KeyedMap.get_put_self m (newTask c.env.now id input))
        hid.symm (hid ▸ hchild)
    exact Relation.ReflTransGen.head (MapStep.insert hfresh fun _ => ⟨parent, hparent⟩)
      (Relation.ReflTransGen.head hadopt
        (Relation.ReflTransGen.single (MapStep.refresh _)))
  | recovered hop =>
    refine Relation.ReflTransGen.trans ?_ (mapSteps_refresh c m _ _)
    refine recoverCandidates_induction (P := fun acc => MapSteps c m m acc.1) ?_
      Relation.ReflTransGen.refl
    intro acc t hsteps hbefore hget hstale
    rw [recoverOne_of_get hget]
    exact hsteps.tail (MapStep.touch hbefore hget (Touch.recovered hop hstale))

/-! ## New ids -/

lemma get_refreshParentRollup_eq_none (hnone : m.get id = none) (parentId : String)
    (now : Timestamp) : (refreshParentRollup m parentId now).get id = none := by
  rcases refreshParentRollup_cases m parentId now with ⟨heq, _⟩ | ⟨parent, _, hget, _, heq⟩
  · rw [heq]
    exact hnone
  · rw [heq]
    have hid := KeyedMap.key_of_get hget
    refine KeyedMap.get_put_eq_none (v := parent) ?_ hnone
    rw [refreshRollup_id, hid]
    exact hget

lemma get_recoverAll_eq_none (hnone : m.get id = none) :
    (recoverAll u now (recoverCandidates isSessionLive m) m).get id = none := by
  have hreset : (((recoverCandidates isSessionLive m).foldl (recoverOne u now) (m, [])).1).get id =
      none := by
    refine recoverCandidates_induction (P := fun acc => acc.1.get id = none) ?_ hnone
    intro acc t hacc _ hget _
    rw [recoverOne_of_get hget]
    exact KeyedMap.get_put_eq_none (recoverRecord_id u now t ▸ hget) hacc
  have hrefresh : ∀ (parents : List String) (all : TaskMap), all.get id = none →
      (parents.foldl (fun all parentId => refreshParentRollup all parentId now) all).get id =
        none := by
    intro parents
    induction parents with
    | nil => exact fun _ hall => hall
    | cons parentId rest ih =>
      intro all hall
      rw [List.foldl_cons]
      exact ih _ (get_refreshParentRollup_eq_none hall parentId now)
  exact hrefresh _ _ hreset

lemma Effect.get_eq_none {m' : TaskMap} (h : Effect c m m') (hnone : m.get id = none)
    (hop : ∀ input, c.op ≠ .create id input) : m'.get id = none := by
  cases h with
  | unchanged => exact hnone
  | rewritten hget htouch =>
    refine get_refreshParentRollup_eq_none ?_ _ _
    exact KeyedMap.get_put_eq_none (htouch.id_eq ▸ hget) hnone
  | stamped hget htouch => exact KeyedMap.get_put_eq_none (htouch.id_eq ▸ hget) hnone
  | @createdRoot newId input hcreate =>
    rw [KeyedMap.get_put_of_ne]
    · exact hnone
    · rintro rfl
      exact hop input hcreate
  | @createdChild newId input parent hcreate _ _ hparent =>
    have hne : id ≠ newId := by
      rintro rfl
      exact hop input hcreate
    have hother : id ≠ parent.id := by
      rintro rfl
      rw [KeyedMap.key_of_get hparent, hparent] at hnone
      cases hnone
    refine get_refreshParentRollup_eq_none ?_ _ _
    rw [KeyedMap.get_put_of_ne _ (by rw [adoptChild_id]; exact hother),
      KeyedMap.get_put_of_ne _ hne]
    exact hnone
  | recovered => exact get_recoverAll_eq_none hnone

/-! ## Evolution of the records over a run -/

structure CallRelation (c : StoreCall) (Q : Task → Task → Prop) : Prop where
  refl : ∀ t, Q t t
  trans : ∀ t₁ t₂ t₃, Q t₁ t₂ → Q t₂ t₃ → Q t₁ t₃
  touch : ∀ {t t'}, Touch c t t' → Q t t'
  refresh : ∀ all parent now, parent.removedAt = none → Q parent (refreshRollup all parent now)
  adopt : ∀ now parent childId, parent.removedAt = none → Q parent (adoptChild now parent childId)

namespace CallRelation

variable {c : StoreCall} {Q : Task → Task → Prop}

lemma mapStep (hQ : CallRelation c Q) {before m m' : TaskMap} (h : MapStep c before m m') :
    KeyedMap.Evolves Q m m' := by
  cases h with
  | touch _ hget htouch =>
    exact KeyedMap.Evolves.put hQ.refl (htouch.id_eq ▸ hget) (hQ.touch htouch)
  | refresh parentId =>
    rcases refreshParentRollup_cases m parentId c.env.now with
      ⟨heq, _⟩ | ⟨parent, _, hget, hlive, heq⟩
    · rw [heq]
      exact KeyedMap.Evolves.refl hQ.refl m
    · rw [heq]
      have hid := KeyedMap.key_of_get hget
      refine KeyedMap.Evolves.put hQ.refl (v := parent) ?_ (hQ.refresh _ _ _ hlive)
      rw [refreshRollup_id, hid]
      exact hget
  | insert hfresh => exact KeyedMap.Evolves.put_fresh hQ.refl hfresh
  | @adopt parent child hget hlive =>
    refine KeyedMap.Evolves.put hQ.refl (v := parent) ?_ (hQ.adopt _ _ _ hlive)
    rw [adoptChild_id]
    exact hget

lemma storeStep (hQ : CallRelation c Q) {s s' : TaskStore} (h : StoreStep s c s') :
    KeyedMap.Evolves Q s.inner s'.inner := by
  have hchain : ∀ m', MapSteps c s.inner s.inner m' → KeyedMap.Evolves Q s.inner m' := by
    intro m' hsteps
    induction hsteps with
    | refl => exact KeyedMap.Evolves.refl hQ.refl s.inner
    | tail _ hlast ih => exact KeyedMap.Evolves.trans hQ.trans ih (hQ.mapStep hlast)
  obtain ⟨hfresh, rfl⟩ := h
  exact hchain _ (StoreCall.effect hfresh).mapSteps

end CallRelation

structure RecordRelation (Q : Task → Task → Prop) : Prop where
  refl : ∀ t, Q t t
  trans : ∀ t₁ t₂ t₃, Q t₁ t₂ → Q t₂ t₃ → Q t₁ t₃
  touch : ∀ {c t t'}, Touch c t t' → Q t t'
  refresh : ∀ all parent now, parent.removedAt = none → Q parent (refreshRollup all parent now)
  adopt : ∀ now parent childId, parent.removedAt = none → Q parent (adoptChild now parent childId)

namespace RecordRelation

variable {Q : Task → Task → Prop}

lemma storeStep (hQ : RecordRelation Q) {s s' : TaskStore} {c : StoreCall}
    (h : StoreStep s c s') : KeyedMap.Evolves Q s.inner s'.inner :=
  CallRelation.storeStep ⟨hQ.refl, hQ.trans, hQ.touch, hQ.refresh, hQ.adopt⟩ h

lemma storeRun (hQ : RecordRelation Q) {s s' : TaskStore} {calls : List StoreCall}
    (h : Exec StoreStep s calls s') : KeyedMap.Evolves Q s.inner s'.inner := by
  induction h with
  | nil s => exact KeyedMap.Evolves.refl hQ.refl s.inner
  | cons hcall _ ih => exact KeyedMap.Evolves.trans hQ.trans (hQ.storeStep hcall) ih

end RecordRelation

/-! ## Invariants of single records -/

/-- `P` holds of every stored record. -/
def AllRecords (P : Task → Prop) (m : TaskMap) : Prop :=
  ∀ id t, m.get id = some t → P t

lemma AllRecords.put {P : Task → Prop} (h : AllRecords P m) (ht : P t) :
    AllRecords P (m.put t) := by
  intro id x hx
  rw [KeyedMap.get_put] at hx
  split at hx
  · exact Option.some.inj hx ▸ ht
  · exact h id x hx

structure RecordInvariant (P : Task → Prop) : Prop where
  created : ∀ now id input, P (newTask now id input)
  refresh : ∀ all parent now, P parent → P (refreshRollup all parent now)
  adopt : ∀ now parent childId, P parent → P (adoptChild now parent childId)

/-- A call keeps such a property if its own mutations do. -/
theorem RecordInvariant.storeStep {P : Task → Prop} (hP : RecordInvariant P) {s' : TaskStore}
    (h : StoreStep s c s') (htouch : ∀ t t', s.inner.get t.id = some t → Touch c t t' → P t → P t')
    (hall : AllRecords P s.inner) : AllRecords P s'.inner := by
  have hchain : ∀ m', MapSteps c s.inner s.inner m' → AllRecords P m' := by
    intro m' hsteps
    induction hsteps with
    | refl => exact hall
    | tail _ hlast ih =>
      cases hlast with
      | touch hbefore hget hmut => exact ih.put (htouch _ _ hbefore hmut (ih _ _ hget))
      | refresh parentId =>
        rcases refreshParentRollup_cases _ parentId c.env.now with
          ⟨heq, _⟩ | ⟨parent, _, hget, _, heq⟩
        · rw [heq]
          exact ih
        · rw [heq]
          exact ih.put (hP.refresh _ _ _ (ih _ _ hget))
      | insert => exact ih.put (hP.created _ _ _)
      | adopt hget => exact ih.put (hP.adopt _ _ _ (ih _ _ hget))
  obtain ⟨hfresh, rfl⟩ := h
  exact hchain _ (StoreCall.effect hfresh).mapSteps

/-! ## Assignees and statuses -/

lemma assignee_recordRelation : RecordRelation fun t t' => t'.assignee = t.assignee where
  refl _ := rfl
  trans _ _ _ h₁ h₂ := h₂.trans h₁
  touch h := by
    have heq := congrArg Task.assignee h.fixedPart_eq
    exact heq
  refresh all parent now _ := by rw [refreshRollup_frame]
  adopt _ _ _ _ := by
    unfold adoptChild
    split <;> rfl

lemma assignee_of_retry {env : StoreEnv} {note : String} {expected : Option Int}
    {task retried : Task} (hget : s.inner.get id = some task)
    (h : (s.retry env id note workspace expected).1 = .ok retried) :
    retried.assignee = task.assignee := by
  have hstep : StoreStep s ⟨env, .retry id note workspace expected⟩
      (s.retry env id note workspace expected).2 := ⟨trivial, rfl⟩
  obtain ⟨task', hget', hsame⟩ := assignee_recordRelation.storeStep hstep id task hget
  obtain ⟨t, hfound, ⟨_, hkept, _⟩ | ⟨_, hcommit⟩⟩ := rewriting_retry.of_ok h
  · exact hkept.elim
  · obtain rfl := Option.some.inj (hget.symm.trans hfound)
    obtain rfl := KeyedMap.key_of_get hget
    have hid : (retryRecord env.now note workspace task).id = task.id := by
      have heq := congrArg Task.id (updateFrame_retryRecord env.now note workspace task)
      exact heq
    rw [hcommit] at h hget'
    rw [commit_inner] at hget'
    obtain ⟨_, _, hanswer⟩ := Result.map_eq_ok.mp h
    rw [hid, hget'] at hanswer
    rw [← hanswer]
    exact hsame

/-- A call that cannot change the status of the task `id`. -/
def StoreCall.Spares (c : StoreCall) (id : String) : Prop :=
  match c.op with
  | .retry id' .. => id' ≠ id
  | .recordDispatch .. | .markToolActivity .. => True
  | _ => False

lemma status_of_spares {s' : TaskStore} (hspares : c.Spares id) (hstep : StoreStep s c s')
    (hget : s.inner.get id = some t) : ∃ t', s'.inner.get id = some t' ∧ t'.status = t.status := by
  have hrelation : CallRelation c fun t t' =>
      t'.id = t.id ∧ (t.id = id → t'.status = t.status) := by
    refine ⟨fun _ => ⟨rfl, fun _ => rfl⟩, ?_, ?_, ?_, ?_⟩
    · intro t₁ t₂ t₃ h₁ h₂
      exact ⟨h₂.1.trans h₁.1, fun hid => (h₂.2 (h₁.1.trans hid)).trans (h₁.2 hid)⟩
    · intro t t' htouch
      refine ⟨htouch.id_eq, fun hid => ?_⟩
      unfold StoreCall.Spares at hspares
      cases htouch with
      | dispatched => rfl
      | active => rfl
      | retried hop =>
        rw [hop] at hspares
        exact absurd hid hspares
      | updated hop | cancelled hop | removed hop | recovered hop =>
        rw [hop] at hspares
        exact hspares.elim
    · intro all parent now _
      exact ⟨refreshRollup_id all parent now, fun _ => refreshRollup_status all parent now⟩
    · intro now parent childId _
      refine ⟨adoptChild_id now parent childId, fun _ => ?_⟩
      unfold adoptChild
      split <;> rfl
  obtain ⟨t', hget', hkept⟩ := hrelation.storeStep hstep id t hget
  exact ⟨t', hget', hkept.2 (KeyedMap.key_of_get hget)⟩

end Ax.Daemon
