import Ax.Daemon.TaskStore.Runs

/-!
# The life of a task

A task ends once: no operation takes it out of a terminal status, and a removed
record is frozen and out of sight.  A completed task also declares what it left
behind, but that contract is checked on the edge into `completed` only.

Main results:

- Theorem `terminal_absorbing_removed_frozen`: over any run, terminal statuses
  stay and removed records neither change, nor get children, nor are listed.
- Theorem `completionContract_iff`: in a run from an empty store every completed task carries the
  declaration exactly as long as no call replaces the result of a completed task by one without it.
- Theorem `completionContract_broken`: such a call is accepted.
-/

namespace Ax.Daemon

open TaskStore

/-! ## Terminal and removed tasks -/

def Settled (t t' : Task) : Prop :=
  (isTerminalStatus t.status = true → t'.status = t.status) ∧ (t.removedAt ≠ none → t' = t)

@[simp]
lemma outcome_adoptChild (now : Timestamp) (parent : Task) (childId : String) :
    outcome (adoptChild now parent childId) = outcome parent := by
  unfold adoptChild
  split <;> rfl

lemma settled_recordRelation : RecordRelation Settled where
  refl t := ⟨fun _ => rfl, fun _ => rfl⟩
  trans t₁ t₂ t₃ h₁ h₂ := by
    refine ⟨fun hterminal => ?_, fun hremoved => ?_⟩
    · have hstatus := h₁.1 hterminal
      exact (h₂.1 (hstatus ▸ hterminal)).trans hstatus
    · obtain rfl := h₁.2 hremoved
      exact h₂.2 hremoved
  touch htouch :=
    ⟨htouch.status_eq_of_terminal, fun hremoved => absurd htouch.not_removed hremoved⟩
  refresh all parent now hlive :=
    ⟨fun _ => refreshRollup_status all parent now, fun hremoved => absurd hlive hremoved⟩
  adopt now parent childId hlive :=
    ⟨fun _ => congrArg Prod.fst (outcome_adoptChild now parent childId),
      fun hremoved => absurd hlive hremoved⟩

variable {s : TaskStore} {x t : Task}

lemma not_removed_of_mem_filter {p : Task → Bool} (h : x ∈ s.inner.values.filter p)
    (hp : p x = true → x.removedAt = none) : s.inner.get x.id = some x ∧ x.removedAt = none := by
  obtain ⟨hvalue, hfilter⟩ := List.mem_filter.mp h
  exact ⟨KeyedMap.mem_values_iff.mp hvalue, hp hfilter⟩

lemma not_removed_of_mem_list {assignee createdBy : String} {status : Option TaskStatus}
    (h : x ∈ s.list assignee createdBy status) :
    s.inner.get x.id = some x ∧ x.removedAt = none := by
  refine not_removed_of_mem_filter h fun hfilter => ?_
  split at hfilter
  · cases hfilter
  · rename_i hlive
    exact Option.not_isSome_iff_eq_none.mp hlive

lemma not_removed_of_mem_runnable {assignee : String} {now : Timestamp}
    (h : x ∈ s.runnableByAssignee assignee now) :
    s.inner.get x.id = some x ∧ x.removedAt = none := by
  refine not_removed_of_mem_filter h fun hfilter => ?_
  split at hfilter
  · cases hfilter
  · rename_i hguard
    push Not at hguard
    simpa using hguard.1

lemma not_removed_of_mem_silent {now : Timestamp} {threshold : Int}
    (h : x ∈ s.listSilentInProgress now threshold) :
    s.inner.get x.id = some x ∧ x.removedAt = none := by
  refine not_removed_of_mem_filter h fun hfilter => ?_
  split at hfilter
  · cases hfilter
  · rename_i hguard
    push Not at hguard
    simpa using hguard.1

lemma create_under_removed {env : StoreEnv} {childId : String} {input : CreateTaskInput}
    {parent : Task} (hfresh : StoreCall.Fresh ⟨env, .create childId input⟩ s)
    (hchild : Text.trim input.parentTaskId ≠ "")
    (hparent : s.inner.get (Text.trim input.parentTaskId) = some parent)
    (hremoved : parent.removedAt ≠ none) :
    (s.create env childId input).1 = .error (.parentRemoved (Text.trim input.parentTaskId)) ∧
      (s.create env childId input).2.inner = s.inner := by
  obtain ⟨hnone, hne⟩ := hfresh
  have hlookup : (s.inner.put (newTask env.now childId input)).get
      (newTask env.now childId input).parentTaskId = some parent := by
    rw [KeyedMap.get_put_of_ne _ (Ne.symm hne)]
    exact hparent
  have hundo : (s.inner.put (newTask env.now childId input)).remove childId = s.inner :=
    KeyedMap.remove_put (v := newTask env.now childId input) hnone
  have hsome : parent.removedAt.isSome = true := Option.isSome_iff_ne_none.mpr hremoved
  have hnotroot : (newTask env.now childId input).parentTaskId ≠ "" := hchild
  simp only [create, hlookup, if_neg hnotroot, hsome, if_true]
  exact ⟨rfl, hundo⟩

/-- Over any run, a task that was terminal still has the same status, and a
removed record is unchanged; no child is created under it (an empty parent id
names no parent), and no reader returns it. -/
theorem terminal_absorbing_removed_frozen {s s' : TaskStore} {calls : List StoreCall}
    (hrun : Exec StoreStep s calls s') {id : String} {t : Task} (hread : s.inner.get id = some t) :
    (isTerminalStatus t.status = true →
      ∃ t', s'.inner.get id = some t' ∧ t'.status = t.status) ∧
    (t.removedAt ≠ none →
      s'.inner.get id = some t ∧
      (∀ (env : StoreEnv) (childId : String) (input : CreateTaskInput),
        StoreCall.Fresh ⟨env, .create childId input⟩ s' →
        Text.trim input.parentTaskId = id → id ≠ "" →
        (s'.create env childId input).1 = .error (.parentRemoved id) ∧
          (s'.create env childId input).2.inner = s'.inner) ∧
      (∀ assignee createdBy status, ∀ x ∈ s'.list assignee createdBy status, x.id ≠ id) ∧
      (∀ assignee now, ∀ x ∈ s'.runnableByAssignee assignee now, x.id ≠ id) ∧
      (∀ now threshold, ∀ x ∈ s'.listSilentInProgress now threshold, x.id ≠ id)) := by
  obtain ⟨t', hget, hstatus, hfrozen⟩ := settled_recordRelation.storeRun hrun id t hread
  refine ⟨fun hterminal => ⟨t', hget, hstatus hterminal⟩, ?_⟩
  intro hremoved
  obtain rfl := hfrozen hremoved
  -- A reader's record is stored and not removed, so it is not this one.
  have hunseen : ∀ x : Task, s'.inner.get x.id = some x ∧ x.removedAt = none → x.id ≠ id := by
    rintro x ⟨hx, hlive⟩ rfl
    rw [hget] at hx
    exact hremoved (Option.some.inj hx ▸ hlive)
  refine ⟨hget, ?_, ?_, ?_, ?_⟩
  · rintro env childId input hfresh rfl hchild
    exact create_under_removed hfresh hchild hget hremoved
  · exact fun _ _ _ x hx => hunseen x (not_removed_of_mem_list hx)
  · exact fun _ _ x hx => hunseen x (not_removed_of_mem_runnable hx)
  · exact fun _ _ x hx => hunseen x (not_removed_of_mem_silent hx)

/-- The theorem at a task that was cancelled and removed, under which a child
is then requested. -/
theorem removed_frozen_example :
    ∃ s t s', s.inner.get "a" = some t ∧ t.status = .cancelled ∧ t.removedAt = some 2 ∧
      Exec StoreStep s [callAt 3 (.create "b" (plainInput "worker" "owner" "a"))] s' ∧
      (∃ t', s'.inner.get "a" = some t' ∧ t'.status = t.status) ∧ s'.inner.get "a" = some t := by
  let s := applyAll inMemory
    [callAt 0 (.create "a" (plainInput "worker" "owner" "")),
      callAt 1 (.cancel "a" "" "owner" none), callAt 2 (.remove "a" "" "owner" none)]
  let t : Task := (s.inner.get "a").get (by decide)
  have hget : s.inner.get "a" = some t := (Option.some_get _).symm
  have hrun : Exec StoreStep s [callAt 3 (.create "b" (plainInput "worker" "owner" "a"))] _ :=
    Exec.single ⟨by decide, rfl⟩
  obtain ⟨hterminal, hremoved⟩ := terminal_absorbing_removed_frozen hrun hget
  exact ⟨s, t, _, hget, by decide, by decide, hrun, hterminal (by decide), (hremoved (by decide)).1⟩

/-! ## The completion contract -/

def Declared (t : Task) : Prop :=
  t.status = .completed → hasLeftoverScopeDeclaration t.result = true

def CompletionContract (s : TaskStore) : Prop :=
  AllRecords Declared s.inner

def ErasesDeclaration (s : TaskStore) (c : StoreCall) : Prop :=
  ∃ id a t r, c.op = .updateWithConfirm id a ∧ s.inner.get id = some t ∧
    t.removedAt = none ∧ t.status = .completed ∧
    a.result = some r ∧ hasLeftoverScopeDeclaration r = false ∧
    (a.status = none ∨ a.status = some .completed) ∧
    (a.workspace = t.assignee ∨ a.workspace = t.createdBy ∧ Text.trim r = "")

lemma validateTaskUpdate_completed_iff {a : UpdateArgs} {r : String}
    (hcompleted : t.status = .completed) (hresult : a.result = some r) :
    validateTaskUpdate t a = .ok () ↔
      t.removedAt = none ∧ (a.status = none ∨ a.status = some .completed) ∧
        (a.workspace = t.assignee ∨ a.workspace = t.createdBy ∧ Text.trim r = "") := by
  have hstatus : ∀ newStatus, validateStatusChange t a newStatus = .ok () ↔
      newStatus = .completed := by
    intro newStatus
    rw [validateStatusChange_eq_ok_iff, hcompleted]
    cases newStatus <;> simp [isAllowedTransition]
  rw [validateTaskUpdate_eq_ok_iff]
  constructor
  · intro h
    refine ⟨h.live, ?_, ?_⟩
    · cases hasked : a.status with
      | none => exact Or.inl rfl
      | some newStatus =>
        rw [(hstatus newStatus).mp (h.status newStatus hasked)]
        exact Or.inr rfl
    · by_cases hassignee : a.workspace = t.assignee
      · exact Or.inl hassignee
      · exact Or.inr ⟨h.party.resolve_left hassignee,
          not_not.mp fun hblank => hassignee (h.author r hresult hblank)⟩
  · rintro ⟨hlive, hasked, hauthor⟩
    refine ⟨hlive, hauthor.imp_right And.left, ?_, ?_⟩
    · intro r' hr' hnonblank
      obtain rfl := Option.some.inj (hresult.symm.trans hr')
      exact hauthor.resolve_right fun h => hnonblank h.2
    · intro newStatus hnew
      rcases hasked with hnone | hsome
      · rw [hnew] at hnone
        cases hnone
      · exact (hstatus newStatus).mpr (Option.some.inj (hnew.symm.trans hsome))

lemma declared_of_completing_update {a : UpdateArgs} (hvalid : validateTaskUpdate t a = .ok ())
    (hopen : t.status ≠ .completed) (hcompleting : a.status = some .completed) :
    hasLeftoverScopeDeclaration (a.result.getD t.result) = true := by
  have hchange := (validateTaskUpdate_eq_ok_iff.mp hvalid).status .completed hcompleting
  have hcompletion := (validateStatusChange_eq_ok_iff.mp hchange).2.2 rfl hopen
  unfold validateCompletion at hcompletion
  split at hcompletion
  · cases hcompletion
  · rename_i hmarker
    simpa using hmarker

lemma Touch.declared {c : StoreCall} {t' : Task} (hkeeps : ¬ ErasesDeclaration s c)
    (hget : s.inner.get t.id = some t) (h : Touch c t t') (ht : Declared t) : Declared t' := by
  cases h with
  | @updated a hop hvalid =>
    intro hcompleted
    show hasLeftoverScopeDeclaration (applyUpdate _ _ a t).1.result = true
    have hstatus : a.status.getD t.status = .completed := by
      rw [← applyUpdate_status]
      exact hcompleted
    rw [applyUpdate_result]
    by_cases hwas : t.status = .completed
    · cases hresult : a.result with
      | none => exact ht hwas
      | some r =>
        by_contra hmissing
        obtain ⟨hlive, hsame, hauthor⟩ :=
          (validateTaskUpdate_completed_iff hwas hresult).mp hvalid
        exact hkeeps ⟨t.id, a, t, r, hop, hget, hlive, hwas, hresult,
          by simpa using hmissing, hsame, hauthor⟩
    · cases hs : a.status with
      | none => rw [hs] at hstatus; exact absurd hstatus hwas
      | some newStatus =>
        rw [hs] at hstatus
        exact declared_of_completing_update hvalid hwas (hs.trans (congrArg some hstatus))
  | cancelled => intro hcompleted; cases hcompleted
  | removed => exact ht
  | retried =>
    intro hcompleted
    rw [retryRecord_status] at hcompleted
    cases hcompleted
  | recovered =>
    intro hcompleted
    rw [recoverRecord_status] at hcompleted
    cases hcompleted
  | dispatched => exact ht
  | active => exact ht

lemma declared_recordInvariant : RecordInvariant Declared where
  created now id input := by
    intro hcompleted
    cases hcompleted
  refresh all parent now hparent := by
    intro hcompleted
    rw [refreshRollup_status] at hcompleted
    rw [refreshRollup_result]
    exact hparent hcompleted
  adopt now parent childId hparent := by
    have houtcome := outcome_adoptChild now parent childId
    simp only [outcome, Prod.mk.injEq] at houtcome
    intro hcompleted
    rw [houtcome.1] at hcompleted
    rw [houtcome.2]
    exact hparent hcompleted

lemma outcome_refreshParentRollup {m : TaskMap} {id : String} (hget : m.get id = some t)
    (parentId : String) (now : Timestamp) :
    ∃ t', (refreshParentRollup m parentId now).get id = some t' ∧ outcome t' = outcome t := by
  rcases get_refreshParentRollup hget parentId now with hkept | hfresh
  · exact ⟨t, hkept, rfl⟩
  · exact ⟨_, hfresh, by simp [outcome]⟩

lemma erasesDeclaration_breaks {c : StoreCall} (hcontract : CompletionContract s)
    (h : ErasesDeclaration s c) : ¬ CompletionContract (c.apply s) := by
  obtain ⟨id, a, t, r, hop, hget, hlive, hcompleted, hresult, hmissing, hsame, hauthor⟩ := h
  obtain rfl : t.id = id := KeyedMap.key_of_get hget
  have hvalid := (validateTaskUpdate_completed_iff hcompleted hresult).mpr ⟨hlive, hsame, hauthor⟩
  have hstatus : (applyUpdate c.env.unicode c.env.now a t).1.status = .completed := by
    rw [applyUpdate_status, hcompleted]
    rcases hsame with hs | hs <;> rw [hs] <;> rfl
  have hresult' : (applyUpdate c.env.unicode c.env.now a t).1.result = r := by
    rw [applyUpdate_result, hresult, Option.getD_some]
  -- The old result has the declaration and the new one has not, so the record
  -- changes and is written.
  have hchanged : (applyUpdate c.env.unicode c.env.now a t).2 = true := by
    by_contra hno
    have hdeclared := hcontract t.id t hget hcompleted
    rw [applyUpdate_eq_self (by simpa using hno)] at hresult'
    rw [hresult', hmissing] at hdeclared
    cases hdeclared
  have hstored : (c.apply s).inner = storeAndRefresh s.inner
      (bump c.env.now (applyUpdate c.env.unicode c.env.now a t).1) c.env.now := by
    simp only [StoreCall.apply, hop, updateWithConfirm, hget, hvalid]
    rw [if_pos hchanged, commit_inner]
  have hput := KeyedMap.get_put_self s.inner
    (bump c.env.now (applyUpdate c.env.unicode c.env.now a t).1)
  obtain ⟨t', hget', houtcome⟩ := outcome_refreshParentRollup hput
    (bump c.env.now (applyUpdate c.env.unicode c.env.now a t).1).parentTaskId c.env.now
  intro hafter
  rw [CompletionContract, hstored] at hafter
  have hdeclared := hafter _ t' hget' ((congrArg Prod.fst houtcome).trans hstatus)
  have hnew : t'.result = r := (congrArg Prod.snd houtcome).trans hresult'
  rw [hnew, hmissing] at hdeclared
  cases hdeclared

/-- In a run from a store without records, every completed task carries its
declaration in every state exactly when no call erases one. -/
theorem completionContract_iff {s s' : TaskStore} {calls : List StoreCall}
    (hempty : s.inner = KeyedMap.empty) (hrun : Exec StoreStep s calls s') :
    Exec.EachState StoreStep CompletionContract s calls ↔
      Exec.EachStep StoreStep (fun s c => ¬ ErasesDeclaration s c) s calls := by
  refine Exec.eachState_iff_eachStep StoreStep.deterministic ?_ hrun ?_
  · intro s c s' hstep hcontract
    constructor
    · intro hafter herases
      obtain ⟨_, rfl⟩ := hstep
      exact erasesDeclaration_breaks hcontract herases hafter
    · intro hkeeps
      exact declared_recordInvariant.storeStep hstep
        (fun t t' hget htouch ht => htouch.declared hkeeps hget ht) hcontract
  · intro id t hget
    rw [hempty, KeyedMap.get_empty] at hget
    cases hget

def plainUpdate (status : Option TaskStatus) (result : Option String) (confirm : Option Bool)
    (workspace : String) : UpdateArgs :=
  ⟨status, result, none, confirm, workspace⟩

def overwritingCalls : List StoreCall :=
  [callAt 0 (.create "a" (plainInput "worker" "owner" "")),
    callAt 1 (.updateWithConfirm "a" (plainUpdate (some .completed)
      (some "remaining owned dirty files=<none>") (some true) "worker")),
    callAt 2 (.updateWithConfirm "a" (plainUpdate none (some "done") none "worker"))]

/-- The overwriting update is accepted: the task stays completed and its result
no longer holds the declaration. -/
theorem completionContract_broken :
    ∃ s', Exec StoreStep inMemory overwritingCalls s' ∧ ¬ CompletionContract s' := by
  refine ⟨_, exec_applyAll (by decide +kernel), ?_⟩
  intro hcontract
  have hbroken := hcontract "a" _ (Option.some_get (by decide +kernel)).symm (by decide +kernel)
  revert hbroken
  decide +kernel

/-- The theorem at the first two calls of that run. -/
theorem completionContract_iff_example :
    ∃ s', Exec StoreStep inMemory (overwritingCalls.take 2) s' ∧
      (Exec.EachState StoreStep CompletionContract inMemory (overwritingCalls.take 2) ↔
        Exec.EachStep StoreStep (fun s c => ¬ ErasesDeclaration s c) inMemory
          (overwritingCalls.take 2)) := by
  have hrun : Exec StoreStep inMemory (overwritingCalls.take 2) _ :=
    exec_applyAll (by decide +kernel)
  exact ⟨_, hrun, completionContract_iff rfl hrun⟩

end Ax.Daemon
