import Ax.Daemon.TaskStore.Runs

/-!
# Claims and reports

A task is claimed by its assignee with the first update that carries anything,
and every claim counts as an attempt.  Retries and recoveries drop the claim.
The outcome of a task is for its assignee to report, but the check against
foreign results looks at trimmed texts while the write takes the text as it is:
a creator can wipe a result out.

Main results:

- Theorem `report_kept_iff`: an update by somebody else than the assignee keeps
  what the task reports, unless it is a blank result of the creator.
- Theorem `blank_result_wipes_report`: such an update is accepted.
- Theorem `recovered_runnable_iff`: which tasks a recovery makes available again.
- Theorem `claim_invariant`: started tasks are claimed by their assignee, attempts
  count the claims, and only unclaimed, dispatched, pending tasks are runnable.
-/

namespace Ax.Daemon

open TaskStore

/-! ## The claim of a record -/

def claim (task : Task) : Option Timestamp × String × String × Int :=
  (task.claimedAt, task.claimedBy, task.claimSource, task.attemptCount)

def report (task : Task) : (TaskStatus × String) × Option Timestamp × String × String × Int :=
  (outcome task, claim task)

@[simp]
lemma claim_applyStatus (a : UpdateArgs) (task : Task) :
    claim (applyStatus a task).1 = claim task := by
  unfold applyStatus clearTaskRetryState
  split
  · rfl
  · dsimp only
    split
    · split <;> rfl
    · rfl

@[simp]
lemma claim_applyResult (a : UpdateArgs) (task : Task) :
    claim (applyResult a task).1 = claim task := by
  unfold applyResult
  split <;> rfl

variable (u : Unicode)

@[simp]
lemma claim_applyLog (now : Timestamp) (a : UpdateArgs) (task : Task) :
    claim (applyLog u now a task).1 = claim task := by
  unfold applyLog
  split
  · rfl
  · split <;> rfl

@[simp]
lemma claim_applyEvidenceHint (now : Timestamp) (prev : TaskStatus) (task : Task) :
    claim (applyEvidenceHint u now prev task).1 = claim task := by
  unfold applyEvidenceHint
  split <;> rfl

lemma claim_applyUpdate (now : Timestamp) (a : UpdateArgs) (task : Task) :
    claim (applyUpdate u now a task).1 = claim (claimForUpdate now a task).1 := by
  simp [applyUpdate]

@[simp]
lemma claim_refreshRollup (all : TaskMap) (parent : Task) (now : Timestamp) :
    claim (refreshRollup all parent now) = claim parent := by
  rw [refreshRollup_frame]
  rfl

@[simp]
lemma claim_adoptChild (now : Timestamp) (parent : Task) (childId : String) :
    claim (adoptChild now parent childId) = claim parent := by
  unfold adoptChild
  split <;> rfl

def KeepsOrClaims (now : Timestamp) (t t' : Task) : Prop :=
  claim t' = claim t ∨ t.claimedAt = none ∧
    ∃ source, claim t' = (some now, t.assignee, source, t.attemptCount + 1)

lemma keepsOrClaims_markTaskClaimed (task : Task) (workspace source : String)
    (now : Timestamp) : KeepsOrClaims now task (markTaskClaimed task workspace source now).1 := by
  unfold markTaskClaimed
  split
  · exact Or.inl rfl
  · rename_i hguard
    push Not at hguard
    refine Or.inr ⟨by simpa using hguard.1, source, ?_⟩
    rw [hguard.2]
    rfl

lemma keepsOrClaims_applyUpdate (now : Timestamp) (a : UpdateArgs) (task : Task) :
    KeepsOrClaims now task (bump now (applyUpdate u now a task).1) := by
  have hclaim : claim (bump now (applyUpdate u now a task).1) =
      claim (claimForUpdate now a task).1 := claim_applyUpdate u now a task
  unfold KeepsOrClaims
  rw [hclaim]
  unfold claimForUpdate
  split
  · exact Or.inl rfl
  · split
    · exact keepsOrClaims_markTaskClaimed _ _ _ _
    · exact Or.inl rfl

lemma keepsOrClaims_cancelRecord (now : Timestamp) (reason workspace : String) (task : Task) :
    KeepsOrClaims now task (cancelRecord now reason workspace task) := by
  unfold cancelRecord
  dsimp only
  split
  · exact keepsOrClaims_markTaskClaimed task workspace "cancel" now
  · exact Or.inl rfl

variable {a : UpdateArgs} {now : Timestamp} {t t' : Task} {s s' : TaskStore} {c : StoreCall}
  {calls : List StoreCall}

lemma claimForUpdate_of_ne {task : Task} (h : a.workspace ≠ task.assignee) :
    (claimForUpdate now a task).1 = task := by
  unfold claimForUpdate
  split
  · rfl
  · rw [if_neg h]

lemma claimedAt_claimForUpdate {task : Task} {source : String}
    (hsource : claimSource a = some source) (h : a.workspace = task.assignee) :
    (claimForUpdate now a task).1.claimedAt.isSome = true := by
  simp only [claimForUpdate, hsource, if_pos h]
  unfold markTaskClaimed
  split
  · rename_i hguard
    rcases hguard with hclaimed | hne
    · exact hclaimed
    · exact absurd h hne
  · rfl

/-! ## Reports of other workspaces -/

lemma validateTaskUpdate_of_ne_iff (hother : a.workspace ≠ t.assignee) :
    validateTaskUpdate t a = .ok () ↔
      t.removedAt = none ∧ a.workspace = t.createdBy ∧
        (∀ r, a.result = some r → Text.trim r = "") ∧
        (a.status = none ∨ a.status = some t.status) := by
  have hstatus : ∀ newStatus, validateStatusChange t a newStatus = .ok () ↔
      newStatus = t.status := by
    intro newStatus
    rw [validateStatusChange_eq_ok_iff]
    constructor
    · intro h
      exact h.1.resolve_left hother
    · rintro rfl
      exact ⟨Or.inr rfl, by simp [isAllowedTransition], fun hdone hopen => absurd hdone hopen⟩
  rw [validateTaskUpdate_eq_ok_iff]
  constructor
  · intro h
    refine ⟨h.live, h.party.resolve_left hother, ?_, ?_⟩
    · intro r hr
      exact not_not.mp fun hnonblank => hother (h.author r hr hnonblank)
    · cases hasked : a.status with
      | none => exact Or.inl rfl
      | some newStatus =>
        rw [(hstatus newStatus).mp (h.status newStatus hasked)]
        exact Or.inr rfl
  · rintro ⟨hlive, hcreator, hblank, hasked⟩
    refine ⟨hlive, Or.inr hcreator, fun r hr hnonblank => absurd (hblank r hr) hnonblank, ?_⟩
    intro newStatus hnew
    rcases hasked with hnone | hsame
    · rw [hnew] at hnone
      cases hnone
    · exact (hstatus newStatus).mpr (Option.some.inj (hnew.symm.trans hsame))

def BlanksResult (t : Task) (a : UpdateArgs) : Prop :=
  t.removedAt = none ∧ a.workspace = t.createdBy ∧ (a.status = none ∨ a.status = some t.status) ∧
    ∃ r, a.result = some r ∧ Text.trim r = "" ∧ r ≠ t.result

lemma report_applyUpdate_of_ne (now : Timestamp) {a : UpdateArgs} {t : Task}
    (hother : a.workspace ≠ t.assignee) :
    report (applyUpdate u now a t).1 =
      ((a.status.getD t.status, a.result.getD t.result), claim t) := by
  rw [report, outcome_applyUpdate, claim_applyUpdate, claimForUpdate_of_ne hother]

@[simp]
lemma report_refreshRollup (all : TaskMap) (parent : Task) (now : Timestamp) :
    report (refreshRollup all parent now) = report parent := by
  simp [report, outcome]

lemma report_storeAndRefresh (m : TaskMap) (t : Task) (now : Timestamp) :
    ∃ t', (storeAndRefresh m t now).get t.id = some t' ∧ report t' = report t := by
  rcases get_refreshParentRollup (KeyedMap.get_put_self m t) t.parentTaskId now with hkept | hfresh
  · exact ⟨t, hkept, rfl⟩
  · exact ⟨_, hfresh, report_refreshRollup _ t now⟩

lemma report_updateWithConfirm (env : StoreEnv) (hget : s.inner.get t.id = some t)
    (hother : a.workspace ≠ t.assignee) (hvalid : validateTaskUpdate t a = .ok ()) :
    ∃ t', (s.updateWithConfirm env t.id a).2.inner.get t.id = some t' ∧
      report t' = ((t.status, a.result.getD t.result), claim t) := by
  have hsame : a.status.getD t.status = t.status := by
    rcases ((validateTaskUpdate_of_ne_iff hother).mp hvalid).2.2.2 with h | h <;> rw [h] <;> rfl
  have hreport := report_applyUpdate_of_ne env.unicode env.now hother
  rw [hsame] at hreport
  simp only [updateWithConfirm, hget, hvalid]
  split
  · rw [commit_inner]
    obtain ⟨t', hget', hstored⟩ := report_storeAndRefresh s.inner
      (bump env.now (applyUpdate env.unicode env.now a t).1) env.now
    have hid : (bump env.now (applyUpdate env.unicode env.now a t).1).id = t.id := by
      have heq := congrArg Task.id (updateFrame_applyUpdate env.unicode env.now a t)
      exact heq
    rw [hid] at hget'
    exact ⟨t', hget', hstored.trans hreport⟩
  · rename_i hunchanged
    rw [applyUpdate_eq_self (by simpa using hunchanged)] at hreport
    exact ⟨t, hget, hreport⟩

/-- An update by somebody else than the assignee leaves what the task reports as it
was, whether it succeeds or fails, unless the creator wipes out the result. -/
theorem report_kept_iff {env : StoreEnv} {s : TaskStore} {id : String} {a : UpdateArgs}
    {t : Task} (hget : s.inner.get id = some t) (hother : a.workspace ≠ t.assignee) :
    (∃ t', (s.updateWithConfirm env id a).2.inner.get id = some t' ∧ report t' = report t) ↔
      ¬BlanksResult t a := by
  obtain rfl : t.id = id := KeyedMap.key_of_get hget
  have hvalidIff := validateTaskUpdate_of_ne_iff hother
  cases hvalid : validateTaskUpdate t a with
  | error e =>
    have hkept : (s.updateWithConfirm env t.id a).2 = s := by
      simp only [updateWithConfirm, hget, hvalid]
    rw [hkept]
    refine ⟨?_, fun _ => ⟨t, hget, rfl⟩⟩
    rintro _ ⟨hlive, hcreator, hstatus, r, hresult, hblank, _⟩
    have hok : validateTaskUpdate t a = .ok () := by
      refine hvalidIff.mpr ⟨hlive, hcreator, fun r' hr' => ?_, hstatus⟩
      rw [hresult] at hr'
      exact Option.some.inj hr' ▸ hblank
    rw [hok] at hvalid
    cases hvalid
  | ok =>
    obtain ⟨hlive, hcreator, hblank, hstatus⟩ := hvalidIff.mp hvalid
    obtain ⟨t', hget', hreport⟩ := report_updateWithConfirm env hget hother hvalid
    constructor
    · rintro ⟨t'', hget'', hkept⟩ ⟨_, _, _, r, hresult, _, hne⟩
      obtain rfl : t' = t'' := Option.some.inj (hget'.symm.trans hget'')
      rw [hreport, hresult] at hkept
      exact hne (congrArg (fun x => x.1.2) hkept)
    · intro hkeeps
      refine ⟨t', hget', hreport.trans ?_⟩
      cases hresult : a.result with
      | none => rfl
      | some r =>
        have hsame : r = t.result := by
          by_contra hne
          exact hkeeps ⟨hlive, hcreator, hstatus, r, hresult, hblank r hresult, hne⟩
        rw [Option.getD_some, hsame]
        rfl

/-- A task of `worker` that `owner` created, after the given later calls. -/
def ownedTask (calls : List StoreCall) : TaskStore :=
  applyAll inMemory (callAt 0 (.create "a" (plainInput "worker" "owner" "")) :: calls)

/-- `worker` reports a result. -/
def reportsResult : StoreCall :=
  callAt 1 (.updateWithConfirm "a" ⟨some .inProgress, some "half done", none, none, "worker"⟩)

/-- The theorem at a log line of the creator. -/
theorem report_kept_example :
    ∃ t, (ownedTask [reportsResult]).inner.get "a" = some t ∧ t.result = "half done" ∧
      ∃ t', ((ownedTask [reportsResult]).updateWithConfirm ⟨Unicode.ascii, 2, .done⟩ "a"
        ⟨none, none, some "please hurry", none, "owner"⟩).2.inner.get "a" = some t' ∧
        report t' = report t := by
  have hget : (ownedTask [reportsResult]).inner.get "a" = some _ :=
    (Option.some_get (by decide +kernel)).symm
  refine ⟨_, hget, by decide +kernel, (report_kept_iff hget (by decide +kernel)).mpr ?_⟩
  rintro ⟨_, _, _, r, hresult, _⟩
  cases hresult

/-- The creator replaces the result of a running task by an empty one, and the update
is accepted. -/
theorem blank_result_wipes_report :
    ∃ t t', (ownedTask [reportsResult]).inner.get "a" = some t ∧
      ((ownedTask [reportsResult]).updateWithConfirm ⟨Unicode.ascii, 2, .done⟩ "a"
        ⟨none, some "", none, none, "owner"⟩).2.inner.get "a" = some t' ∧
      t.assignee = "worker" ∧ t.result = "half done" ∧ t'.result = "" := by
  exact ⟨_, _, (Option.some_get (by decide +kernel)).symm,
    (Option.some_get (by decide +kernel)).symm, by decide +kernel, by decide +kernel,
    by decide +kernel⟩

/-! ## Claims over a run -/

def StoreCall.dropsClaims (c : StoreCall) : Bool :=
  match c.op with
  | .retry .. | .recoverStaleInProgress _ => true
  | _ => false

lemma Touch.claim_cases (h : Touch c t t') :
    (c.dropsClaims = true ∧ claim t' = (none, "", "", t.attemptCount)) ∨
      (c.dropsClaims = false ∧ KeepsOrClaims c.env.now t t') := by
  unfold StoreCall.dropsClaims
  cases h with
  | updated hop => exact Or.inr ⟨by rw [hop], keepsOrClaims_applyUpdate _ _ _ t⟩
  | cancelled hop => exact Or.inr ⟨by rw [hop], keepsOrClaims_cancelRecord _ _ _ t⟩
  | removed hop => exact Or.inr ⟨by rw [hop], Or.inl rfl⟩
  | dispatched hop => exact Or.inr ⟨by rw [hop], Or.inl rfl⟩
  | active hop => exact Or.inr ⟨by rw [hop], Or.inl rfl⟩
  | retried hop =>
    refine Or.inl ⟨by rw [hop], ?_⟩
    unfold retryRecord clearTaskRetryState
    dsimp only
    split <;> rfl
  | recovered hop =>
    refine Or.inl ⟨by rw [hop], ?_⟩
    unfold recoverRecord clearTaskRetryState
    dsimp only
    split <;> rfl

/-- The statuses that only the assignee can bring about. -/
def isStartedStatus : TaskStatus → Bool
  | .inProgress | .blocked | .completed | .failed => true
  | .pending | .cancelled => false

structure ClaimSound (t : Task) : Prop where
  claimed : t.claimedAt.isSome = true → t.claimedBy = t.assignee ∧ 1 ≤ t.attemptCount
  counted : 0 ≤ t.attemptCount
  started : isStartedStatus t.status = true → t.claimedAt.isSome = true

lemma ClaimSound.congr (h : ClaimSound t) (hclaim : claim t' = claim t)
    (hassignee : t'.assignee = t.assignee)
    (hstatus : isStartedStatus t'.status = true → t.claimedAt.isSome = true) : ClaimSound t' := by
  simp only [claim, Prod.mk.injEq] at hclaim
  obtain ⟨hat, hby, _, hcount⟩ := hclaim
  exact ⟨fun hsome => by
    rw [hby, hassignee, hcount]
    exact h.claimed (hat ▸ hsome), hcount ▸ h.counted, fun hstarted => hat ▸ hstatus hstarted⟩

lemma ClaimSound.keepsOrClaims (h : ClaimSound t) (hclaims : KeepsOrClaims now t t')
    (hassignee : t'.assignee = t.assignee)
    (hstatus : isStartedStatus t'.status = true → t'.claimedAt.isSome = true) : ClaimSound t' := by
  rcases hclaims with hkept | ⟨_, source, hmade⟩
  · refine h.congr hkept hassignee fun hstarted => ?_
    have hat : t'.claimedAt = t.claimedAt := congrArg Prod.fst hkept
    exact hat ▸ hstatus hstarted
  · simp only [claim, Prod.mk.injEq] at hmade
    obtain ⟨hat, hby, _, hcount⟩ := hmade
    have hcounted := h.counted
    exact ⟨fun _ => ⟨by rw [hby, hassignee], by omega⟩, by omega, fun _ => by rw [hat]; rfl⟩

lemma claimedAt_of_update {u : Unicode} (h : ClaimSound t)
    (hvalid : validateTaskUpdate t a = .ok ())
    (hstarted : isStartedStatus (applyUpdate u now a t).1.status = true) :
    (applyUpdate u now a t).1.claimedAt.isSome = true := by
  have hat : (applyUpdate u now a t).1.claimedAt = (claimForUpdate now a t).1.claimedAt :=
    congrArg Prod.fst (claim_applyUpdate u now a t)
  rw [hat]
  rw [applyUpdate_status] at hstarted
  by_cases hself : a.workspace = t.assignee
  · cases hsource : claimSource a with
    | some source => exact claimedAt_claimForUpdate hsource hself
    | none =>
      -- Nothing is carried, in particular no status.
      have hnone : a.status = none := by
        unfold claimSource at hsource
        split at hsource
        · cases hsource
        · assumption
      rw [hnone] at hstarted
      simp only [claimForUpdate, hsource]
      exact h.started hstarted
  · rw [claimForUpdate_of_ne hself]
    rcases ((validateTaskUpdate_of_ne_iff hself).mp hvalid).2.2.2 with hs | hs <;>
      rw [hs] at hstarted <;> exact h.started hstarted

lemma ClaimSound.dropped (h : ClaimSound t) (hclaim : claim t' = (none, "", "", t.attemptCount))
    (hstatus : t'.status = .pending) : ClaimSound t' := by
  simp only [claim, Prod.mk.injEq] at hclaim
  obtain ⟨hat, _, _, hcount⟩ := hclaim
  refine ⟨fun hsome => ?_, hcount ▸ h.counted, fun hstarted => ?_⟩
  · rw [hat] at hsome
    cases hsome
  · rw [hstatus] at hstarted
    cases hstarted

lemma ClaimSound.touch (h : ClaimSound t) (htouch : Touch c t t') : ClaimSound t' := by
  have hassignee : t'.assignee = t.assignee := assignee_recordRelation.touch htouch
  rcases htouch.claim_cases with ⟨hdrops, hclaim⟩ | ⟨_, hclaim⟩
  · refine h.dropped hclaim ?_
    unfold StoreCall.dropsClaims at hdrops
    cases htouch with
    | retried => exact retryRecord_status _ _ _ t
    | recovered => exact recoverRecord_status _ _ t
    | updated hop => simp [hop] at hdrops
    | cancelled hop => simp [hop] at hdrops
    | removed hop => simp [hop] at hdrops
    | dispatched hop => simp [hop] at hdrops
    | active hop => simp [hop] at hdrops
  · refine h.keepsOrClaims hclaim hassignee ?_
    cases htouch with
    | updated _ hvalid => exact claimedAt_of_update h hvalid
    | cancelled => exact fun hstarted => by cases hstarted
    | removed => exact h.started
    | dispatched => exact h.started
    | active => exact h.started
    | retried =>
      rw [retryRecord_status]
      exact fun hstarted => by cases hstarted
    | recovered =>
      rw [recoverRecord_status]
      exact fun hstarted => by cases hstarted

lemma claimSound_recordInvariant : RecordInvariant ClaimSound where
  created now id input := ⟨nofun, le_refl 0, nofun⟩
  refresh all parent now h := by
    refine h.congr (claim_refreshRollup all parent now) (by rw [refreshRollup_frame]) ?_
    rw [refreshRollup_status]
    exact h.started
  adopt now parent childId h := by
    refine h.congr (claim_adoptChild now parent childId) ?_ ?_
    · unfold adoptChild
      split <;> rfl
    · unfold adoptChild
      split <;> exact h.started

/-! ## Attempts count the claims -/

def standing (m : TaskMap) (id : String) : Bool × Int :=
  ((m.get id).map fun t => (t.claimedAt.isSome, t.attemptCount)).getD (false, 0)

def newClaim (x y : Bool × Int) : Int :=
  if x.1 = false ∧ y.1 = true then 1 else 0

def claimCount (id : String) : TaskStore → List StoreCall → Int
  | _, [] => 0
  | s, c :: rest =>
    newClaim (standing s.inner id) (standing (c.apply s).inner id) +
      claimCount id (c.apply s) rest

def Counted (drops : Bool) (x y : Bool × Int) : Prop :=
  y.2 = x.2 + newClaim x y ∧
    if drops then y.1 = true → x.1 = true else x.1 = true → y.1 = true

lemma Counted.refl (drops : Bool) (x : Bool × Int) : Counted drops x x := by
  rcases x with ⟨claimed, count⟩
  cases drops <;> cases claimed <;> simp [Counted, newClaim]

lemma Counted.trans {drops : Bool} {x y z : Bool × Int} (h₁ : Counted drops x y)
    (h₂ : Counted drops y z) : Counted drops x z := by
  rcases x with ⟨claimed₁, count₁⟩
  rcases y with ⟨claimed₂, count₂⟩
  rcases z with ⟨claimed₃, count₃⟩
  unfold Counted newClaim at *
  cases drops <;> cases claimed₁ <;> cases claimed₂ <;> cases claimed₃ <;> simp_all

lemma standing_put (m : TaskMap) (t : Task) (id : String) :
    standing (m.put t) id =
      if id = t.id then (t.claimedAt.isSome, t.attemptCount) else standing m id := by
  unfold standing
  rw [KeyedMap.get_put]
  split <;> rfl

lemma standing_put_of_claim_eq {m : TaskMap} (hget : m.get t'.id = some t)
    (hclaim : claim t' = claim t) (id : String) : standing (m.put t') id = standing m id := by
  simp only [claim, Prod.mk.injEq] at hclaim
  rw [standing_put]
  split
  · rename_i hid
    simp [standing, hid, hget, hclaim]
  · rfl

lemma counted_touch (h : Touch c t t') :
    Counted c.dropsClaims (t.claimedAt.isSome, t.attemptCount)
      (t'.claimedAt.isSome, t'.attemptCount) := by
  rcases h.claim_cases with ⟨hdrops, hclaim⟩ | ⟨hdrops, hkept | ⟨hnone, source, hmade⟩⟩
  · simp only [claim, Prod.mk.injEq] at hclaim
    simp [Counted, newClaim, hdrops, hclaim]
  · simp only [claim, Prod.mk.injEq] at hkept
    rw [hkept.1, hkept.2.2.2]
    exact Counted.refl _ _
  · simp only [claim, Prod.mk.injEq] at hmade
    simp [Counted, newClaim, hdrops, hnone, hmade]

lemma counted_mapStep {before m m' : TaskMap} (h : MapStep c before m m') (id : String) :
    Counted c.dropsClaims (standing m id) (standing m' id) := by
  cases h with
  | @touch t t' _ hget htouch =>
    rw [standing_put]
    split
    · rename_i hid
      have hbefore : standing m id = (t.claimedAt.isSome, t.attemptCount) := by
        simp [standing, hid, htouch.id_eq, hget]
      rw [hbefore]
      exact counted_touch htouch
    · exact Counted.refl _ _
  | refresh parentId =>
    rcases refreshParentRollup_cases m parentId c.env.now with
      ⟨heq, _⟩ | ⟨parent, _, hget, _, heq⟩
    · rw [heq]
      exact Counted.refl _ _
    · rw [heq, standing_put_of_claim_eq (t := parent) _ (claim_refreshRollup _ _ _)]
      · exact Counted.refl _ _
      · rw [refreshRollup_id, KeyedMap.key_of_get hget]
        exact hget
  | @insert newId input hfresh =>
    rw [standing_put]
    split
    · rename_i hid
      have hbefore : standing m id = (false, 0) := by
        rw [standing, show id = newId from hid, hfresh]
        rfl
      rw [hbefore]
      exact Counted.refl _ _
    · exact Counted.refl _ _
  | @adopt parent child hget =>
    rw [standing_put_of_claim_eq (t := parent) _ (claim_adoptChild _ _ _)]
    · exact Counted.refl _ _
    · rw [adoptChild_id]
      exact hget

lemma counted_storeStep (h : StoreStep s c s') (id : String) :
    Counted c.dropsClaims (standing s.inner id) (standing s'.inner id) := by
  have hchain : ∀ m', MapSteps c s.inner s.inner m' →
      Counted c.dropsClaims (standing s.inner id) (standing m' id) := by
    intro m' hsteps
    induction hsteps with
    | refl => exact Counted.refl _ _
    | tail _ hlast ih => exact ih.trans (counted_mapStep hlast id)
  obtain ⟨hfresh, rfl⟩ := h
  exact hchain _ (StoreCall.effect hfresh).mapSteps

lemma attempts_of_run (h : Exec StoreStep s calls s') (id : String) :
    (standing s'.inner id).2 = (standing s.inner id).2 + claimCount id s calls := by
  induction h with
  | nil s => simp [claimCount]
  | cons hstep _ ih =>
    have hcount := (counted_storeStep hstep id).1
    obtain ⟨_, rfl⟩ := hstep
    rw [ih, hcount, claimCount]
    omega

/-! ## Dispatches over a run -/

def Dispatched (calls : List StoreCall) (id : String) : Prop :=
  ∃ c ∈ calls, ∃ recipient when_, c.op = .recordDispatch id recipient when_

def StampedByDispatch (calls : List StoreCall) (t : Task) : Prop :=
  t.lastDispatchAt.isSome = true → Dispatched calls t.id

lemma stampedByDispatch_recordInvariant (calls : List StoreCall) :
    RecordInvariant (StampedByDispatch calls) where
  created _ _ _ := nofun
  refresh all parent now h := by
    rw [refreshRollup_frame]
    exact h
  adopt now parent childId h := by
    unfold adoptChild
    split <;> exact h

lemma StampedByDispatch.touch (h : StampedByDispatch calls t) (htouch : Touch c t t')
    (hmem : c ∈ calls) : StampedByDispatch calls t' := by
  rcases htouch.frame_cases with hframe | ⟨_, _, rfl⟩ | ⟨_, _, hop, rfl⟩ | ⟨_, rfl⟩
  · have hid := congrArg Task.id hframe
    have hstamp := congrArg Task.lastDispatchAt hframe
    intro hsome
    rw [show t'.id = t.id from hid]
    rw [show t'.lastDispatchAt = t.lastDispatchAt from hstamp] at hsome
    exact h hsome
  · exact h
  · exact fun _ => ⟨c, hmem, _, _, hop⟩
  · exact h

lemma stampedByDispatch_of_run (hempty : s.inner = KeyedMap.empty)
    (hrun : Exec StoreStep s calls s') : AllRecords (StampedByDispatch calls) s'.inner := by
  refine Exec.rightInduction (motive := fun calls s' =>
    AllRecords (StampedByDispatch calls) s'.inner) ?_ ?_ hrun
  · intro id t hget
    rw [hempty] at hget
    cases hget
  · intro calls t c u _ ih hstep
    have hmore : AllRecords (StampedByDispatch (calls ++ [c])) t.inner := by
      intro id x hget hstamp
      obtain ⟨c', hmem, hop⟩ := ih id x hget hstamp
      exact ⟨c', List.mem_append_left _ hmem, hop⟩
    exact (stampedByDispatch_recordInvariant _).storeStep hstep
      (fun x x' _ htouch h => h.touch htouch (List.mem_append_right _ List.mem_cons_self)) hmore

lemma claimSound_of_run (hempty : s.inner = KeyedMap.empty) (hrun : Exec StoreStep s calls s') :
    AllRecords ClaimSound s'.inner := by
  refine Exec.invariant (P := fun s => AllRecords ClaimSound s.inner) ?_ hrun ?_
  · intro s c t hstep hall
    exact claimSound_recordInvariant.storeStep hstep (fun x x' _ htouch h => h.touch htouch) hall
  · intro id t hget
    rw [hempty] at hget
    cases hget

lemma mem_runnableByAssignee_iff {assignee : String} :
    t ∈ s.runnableByAssignee assignee now ↔
      s.inner.get t.id = some t ∧ t.removedAt = none ∧ t.assignee = assignee ∧
        t.status = .pending ∧ t.lastDispatchAt.isSome = true ∧ t.claimedAt = none ∧
        t.nextRetryAt.all (fun retryAt => retryAt ≤ now) = true := by
  unfold runnableByAssignee
  rw [List.mem_filter, KeyedMap.mem_values_iff]
  refine and_congr_right fun _ => ?_
  split_ifs with hgone hwaits
  · simp only [false_iff]
    rintro ⟨hlive, hassignee, _⟩
    simp [hlive, hassignee] at hgone
  · simp only [false_iff]
    rintro ⟨_, _, hpending, hstamp, hfree, _⟩
    cases hd : t.lastDispatchAt <;> simp_all
  · push Not at hgone hwaits
    simp only [Option.isSome_iff_ne_none] at hgone hwaits ⊢
    simp_all

/-- Claims over every run from an empty store: a started task is claimed by its
assignee and was attempted, the attempts are the claims that were made, and a task is
offered to its assignee only if it was dispatched and is neither claimed, started,
over nor removed. -/
theorem claim_invariant {s s' : TaskStore} {calls : List StoreCall}
    (hempty : s.inner = KeyedMap.empty) (hrun : Exec StoreStep s calls s') :
    (∀ id t, s'.inner.get id = some t →
      (isStartedStatus t.status = true →
        t.claimedAt.isSome = true ∧ t.claimedBy = t.assignee ∧ 1 ≤ t.attemptCount) ∧
      t.attemptCount = claimCount id s calls) ∧
    ∀ assignee now t, t ∈ s'.runnableByAssignee assignee now →
      t.claimedAt = none ∧ t.status = .pending ∧ t.removedAt = none ∧
        t.lastDispatchAt.isSome = true ∧ Dispatched calls t.id := by
  constructor
  · intro id t hget
    have hsound := claimSound_of_run hempty hrun id t hget
    refine ⟨fun hstarted => ⟨hsound.started hstarted, hsound.claimed (hsound.started hstarted)⟩, ?_⟩
    have hcount := attempts_of_run hrun id
    have hnone : (standing s.inner id).2 = 0 := by
      rw [hempty]
      rfl
    rw [hnone, Int.zero_add, standing, hget] at hcount
    exact hcount
  · intro assignee now t hmem
    obtain ⟨hget, hlive, _, hpending, hstamp, hfree, _⟩ := mem_runnableByAssignee_iff.mp hmem
    exact ⟨hfree, hpending, hlive, hstamp, stampedByDispatch_of_run hempty hrun t.id t hget hstamp⟩

def reclaimingCalls : List StoreCall :=
  [callAt 0 (.create "a" (plainInput "worker" "owner" "")),
   callAt 1 (.recordDispatch "a" "worker" 1),
   callAt 2 (.updateWithConfirm "a" ⟨some .inProgress, none, none, none, "worker"⟩),
   callAt 3 (.retry "a" "again" "owner" none),
   callAt 4 (.updateWithConfirm "a" ⟨some .inProgress, none, none, none, "worker"⟩)]

/-- The theorem at such a run: the second claim is the second attempt. -/
theorem reclaimed_task_counts_two :
    ∃ t, (applyAll inMemory reclaimingCalls).inner.get "a" = some t ∧
      t.claimedBy = t.assignee ∧ t.attemptCount = claimCount "a" inMemory reclaimingCalls ∧
      claimCount "a" inMemory reclaimingCalls = 2 := by
  have hrun : Exec StoreStep inMemory reclaimingCalls _ :=
    exec_applyAll (s := inMemory) (by decide +kernel)
  have hget : (applyAll inMemory reclaimingCalls).inner.get "a" = some _ :=
    (Option.some_get (by decide +kernel)).symm
  obtain ⟨hstarted, hcount⟩ := (claim_invariant rfl hrun).1 "a" _ hget
  exact ⟨_, hget, (hstarted (by decide +kernel)).2.1, hcount, by decide +kernel⟩

/-! ## Recovery -/

def KeepsOrResets (t t' : Task) : Prop :=
  (t'.status = t.status ∧ t'.claimedAt = t.claimedAt ∧ t'.nextRetryAt = t.nextRetryAt) ∨
    (t.status = .inProgress ∧ t'.claimedAt = none ∧ t'.nextRetryAt = none)

lemma keepsOrResets_recoverRecord (hrunning : t.status = .inProgress) :
    KeepsOrResets t (recoverRecord u now t) := by
  refine .inr ⟨hrunning, ?_⟩
  unfold recoverRecord clearTaskRetryState
  dsimp only
  split
  · next hnone => exact ⟨rfl, Option.isNone_iff_eq_none.mp hnone⟩
  · exact ⟨rfl, rfl⟩

lemma keepsOrResets_callRelation {isSessionLive : String → Bool}
    (hop : c.op = .recoverStaleInProgress isSessionLive) : CallRelation c KeepsOrResets where
  refl _ := .inl ⟨rfl, rfl, rfl⟩
  trans t₁ t₂ t₃ h₁ h₂ := by
    rcases h₁ with ⟨hstatus, hclaim, hretry⟩ | ⟨hrunning, hclaim, hretry⟩
    · unfold KeepsOrResets
      rwa [← hstatus, ← hclaim, ← hretry]
    · refine .inr ⟨hrunning, ?_⟩
      rcases h₂ with ⟨-, hclaim', hretry'⟩ | ⟨-, hcleared⟩
      · exact ⟨hclaim'.trans hclaim, hretry'.trans hretry⟩
      · exact hcleared
  touch h := by
    cases h with
    | recovered _ hstale => exact keepsOrResets_recoverRecord _ (running_of_stale hstale)
    | updated hop' => cases hop.symm.trans hop'
    | cancelled hop' => cases hop.symm.trans hop'
    | removed hop' => cases hop.symm.trans hop'
    | retried hop' => cases hop.symm.trans hop'
    | dispatched hop' => cases hop.symm.trans hop'
    | active hop' => cases hop.symm.trans hop'
  refresh all parent now _ := by
    rw [refreshRollup_frame]
    exact .inl ⟨rfl, rfl, rfl⟩
  adopt now parent childId _ := by
    unfold adoptChild
    split <;> exact .inl ⟨rfl, rfl, rfl⟩

/-- After a recovery, a dispatched task that is pending and whose assignee has no session is
offered to its assignee if and only if it was running before, or it was not claimed and is not
to be retried later. -/
theorem recovered_runnable_iff {env : StoreEnv} {isSessionLive : String → Bool} {id : String}
    (hget : s.inner.get id = some t)
    (hget' : (s.recoverStaleInProgress env isSessionLive).2.inner.get id = some t')
    (hlive : t'.removedAt = none) (hdispatched : t'.lastDispatchAt.isSome = true)
    (hpending : t'.status = .pending) (now : Timestamp) :
    t' ∈ (s.recoverStaleInProgress env isSessionLive).2.runnableByAssignee t'.assignee now ↔
      t.status = .inProgress ∨
        t.claimedAt = none ∧ t.nextRetryAt.all (fun retryAt => retryAt ≤ now) = true := by
  have hstep : StoreStep s ⟨env, .recoverStaleInProgress isSessionLive⟩
      (s.recoverStaleInProgress env isSessionLive).2 := ⟨trivial, rfl⟩
  obtain ⟨t'', hget'', hchange⟩ := (keepsOrResets_callRelation rfl).storeStep hstep id t hget
  obtain rfl := Option.some.inj (hget'.symm.trans hget'')
  have hself := KeyedMap.key_of_get hget'
  rw [mem_runnableByAssignee_iff, show t'.id = id from hself]
  simp only [hget', hlive, hdispatched, hpending, true_and]
  rcases hchange with ⟨hstatus, hclaim, hretry⟩ | ⟨hrunning, hclaim, hretry⟩
  · have hnot : t.status ≠ .inProgress := by
      rw [← hstatus, hpending]
      decide
    simp only [hclaim, hretry, hnot, false_or]
  · simp [hrunning, hclaim, hretry]

/-- A task is created and dispatched, and then the given update of `worker` is made. -/
def workedTask (a : UpdateArgs) : TaskStore :=
  ownedTask [callAt 1 (.recordDispatch "a" "worker" 1), callAt 2 (.updateWithConfirm "a" a)]

/-- A task that `worker` started is offered again after a recovery. -/
theorem recovered_runnable_started :
    ∃ t', ((workedTask ⟨some .inProgress, none, none, none, "worker"⟩).recoverStaleInProgress
        ⟨.ascii, 3, .done⟩ fun _ => false).2.inner.get "a" = some t' ∧
      t' ∈ ((workedTask ⟨some .inProgress, none, none, none, "worker"⟩).recoverStaleInProgress
        ⟨.ascii, 3, .done⟩ fun _ => false).2.runnableByAssignee t'.assignee 4 := by
  have hget : (workedTask ⟨some .inProgress, none, none, none, "worker"⟩).inner.get "a" =
      some _ := (Option.some_get (by decide +kernel)).symm
  have hget' := (Option.some_get (x := ((workedTask ⟨some .inProgress, none, none, none,
    "worker"⟩).recoverStaleInProgress ⟨.ascii, 3, .done⟩ fun _ => false).2.inner.get "a")
      (by decide +kernel)).symm
  exact ⟨_, hget', (recovered_runnable_iff hget hget' (by decide +kernel) (by decide +kernel)
    (by decide +kernel) 4).mpr (.inl (by decide +kernel))⟩

/-- A task of which `worker` only wrote a log line stays claimed, and is offered to nobody. -/
theorem recovered_stuck_logged :
    let before := workedTask ⟨none, none, some "reading", none, "worker"⟩
    let after := (before.recoverStaleInProgress ⟨.ascii, 3, .done⟩ fun _ => false).2
    ((after.inner.get "a").map fun t => (t.status, t.lastDispatchAt, t.removedAt)) =
        some (.pending, some 1, none) ∧
      after.runnableByAssignee "worker" 4 = [] := by
  decide +kernel

end Ax.Daemon
