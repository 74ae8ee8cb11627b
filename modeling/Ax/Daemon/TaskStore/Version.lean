import Ax.Daemon.TaskStore.Runs

/-!
# Versions identify records

Every task record carries a version, and cancel, remove and retry accept an
expected version.  The check is only worth something if a version stands for
one record: a record must never change without a new version, also when it
changes as the parent of another task.

Main results:

- Theorem `version_sound`: over any run a record with an unchanged version is
  unchanged, and a control request that succeeds with an expected version acts
  on the record that was read at that version.
-/

namespace Ax.Daemon

open TaskStore

def SameOrNewer (t t' : Task) : Prop :=
  t' = t ∨ t.version < t'.version

lemma sameOrNewer_recordRelation : RecordRelation SameOrNewer where
  refl t := Or.inl rfl
  trans t₁ t₂ t₃ h₁ h₂ := by
    rcases h₁ with rfl | hlt₁
    · exact h₂
    · rcases h₂ with rfl | hlt₂
      · exact Or.inr hlt₁
      · exact Or.inr (hlt₁.trans hlt₂)
  touch {c t t'} htouch := by
    refine Or.inr ?_
    rw [htouch.version_eq]
    omega
  refresh all parent now _ := by
    rcases refreshRollup_eq_or_version all parent now with hsame | hnew
    · exact Or.inl hsame
    · exact Or.inr (by omega)
  adopt now parent childId _ := by
    unfold adoptChild
    split
    · exact Or.inl rfl
    · exact Or.inr (show parent.version < parent.version + 1 by omega)

/-! ## Requests with an expected version -/

variable {answer : Task} {env : StoreEnv} {id workspace : String} {s : TaskStore} {want : Int}

lemma version_of_ok {allowAssignee : Bool} {check : Task → Prop} {rewrite : Task → Task}
    {result : Except TaskStoreError Task × TaskStore}
    (h : Rewriting env s id (fun t =>
      validateTaskControl t workspace (some want) allowAssignee = .ok () ∧ check t)
      (fun _ => False) rewrite result) (hok : result.1 = .ok answer) :
    ∃ t, s.inner.get id = some t ∧ t.version = want ∧
      result.2.inner = storeAndRefresh s.inner (rewrite t) env.now := by
  obtain ⟨t, hget, ⟨_, hkept, _⟩ | ⟨hcheck, rfl⟩⟩ := h.of_ok hok
  · exact hkept.elim
  · exact ⟨t, hget, version_of_validateTaskControl hcheck.1, commit_inner _ _ _ _⟩

/-! ## Soundness -/

lemma eq_of_version_eq {s' : TaskStore} {calls : List StoreCall}
    (hrun : Exec StoreStep s calls s') {t t' : Task} (hread : s.inner.get id = some t)
    (hlater : s'.inner.get id = some t') (hver : t'.version = t.version) : t' = t := by
  obtain ⟨x, hx, hnewer⟩ := sameOrNewer_recordRelation.storeRun hrun id t hread
  have hsame : x = t' := Option.some.inj (hx.symm.trans hlater)
  subst hsame
  rcases hnewer with heq | hlt
  · exact heq
  · omega

/-- Versions identify records.  Over any sequence of calls, from any store, a
record read as `t` stays stored; it is unchanged or has a higher version (for a
single call this says that the call left the record identical or counted a new
version); a later record of the same version is the same record; and a cancel,
remove or retry that succeeds with the version of `t` as its expected version
acts on `t` itself. -/
theorem version_sound {s s' : TaskStore} {calls : List StoreCall} (hrun : Exec StoreStep s calls s')
    {id : String} {t : Task} (hread : s.inner.get id = some t) :
    (∃ t', s'.inner.get id = some t' ∧ (t' = t ∨ t.version < t'.version)) ∧
    (∀ t', s'.inner.get id = some t' → t'.version = t.version → t' = t) ∧
    (∀ (env : StoreEnv) (reason workspace : String) (answer : Task),
      ((s'.cancel env id reason workspace (some t.version)).1 = .ok answer →
        s'.inner.get id = some t ∧
          (s'.cancel env id reason workspace (some t.version)).2.inner =
            storeAndRefresh s'.inner (cancelRecord env.now reason workspace t) env.now) ∧
      ((s'.remove env id reason workspace (some t.version)).1 = .ok answer →
        s'.inner.get id = some t ∧
          (s'.remove env id reason workspace (some t.version)).2.inner =
            storeAndRefresh s'.inner (removeRecord env.now reason workspace t) env.now) ∧
      ((s'.retry env id reason workspace (some t.version)).1 = .ok answer →
        s'.inner.get id = some t ∧
          (s'.retry env id reason workspace (some t.version)).2.inner =
            storeAndRefresh s'.inner (retryRecord env.now reason workspace t) env.now)) := by
  have hsame : ∀ t', s'.inner.get id = some t' → t'.version = t.version → t' = t :=
    fun t' hlater hver => eq_of_version_eq hrun hread hlater hver
  refine ⟨sameOrNewer_recordRelation.storeRun hrun id t hread, hsame, ?_⟩
  intro env reason workspace answer
  refine ⟨?_, ?_, ?_⟩
  · intro hok
    obtain ⟨x, hx, hver, heffect⟩ := version_of_ok rewriting_cancel hok
    obtain rfl := hsame x hx hver
    exact ⟨hx, heffect⟩
  · intro hok
    obtain ⟨x, hx, hver, heffect⟩ := version_of_ok rewriting_remove hok
    obtain rfl := hsame x hx hver
    exact ⟨hx, heffect⟩
  · intro hok
    obtain ⟨x, hx, hver, heffect⟩ := version_of_ok rewriting_retry hok
    obtain rfl := hsame x hx hver
    exact ⟨hx, heffect⟩

/-- The theorem at a task that is created and then dispatched. -/
theorem version_sound_dispatch :
    ∃ s', Exec StoreStep
        ((callAt 0 (.create "a" (plainInput "worker" "owner" ""))).apply inMemory)
        [callAt 1 (.recordDispatch "a" "worker" 1)] s' ∧
      ∃ t', s'.inner.get "a" = some t' ∧
        (t' = newTask 0 "a" (plainInput "worker" "owner" "") ∨ 1 < t'.version) := by
  have hrun : Exec StoreStep
      ((callAt 0 (.create "a" (plainInput "worker" "owner" ""))).apply inMemory)
      [callAt 1 (.recordDispatch "a" "worker" 1)] _ := Exec.single ⟨trivial, rfl⟩
  exact ⟨_, hrun, (version_sound hrun (by decide)).1⟩

end Ax.Daemon
