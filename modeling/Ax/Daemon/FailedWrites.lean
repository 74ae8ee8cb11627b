import Ax.Daemon.SharedValues
import Ax.Daemon.TaskStore.Runs
import Ax.Daemon.Team.Controller

/-!
# Failed writes of the state stores

The task store, the shared values and the team states all change their records
in memory before they write their file, and none of them takes the change back
when the write fails.  A request that is told to have failed then has taken
effect.  It leaves the records alone in exactly the other cases.

Main results:

- Theorem `failed_change_iff`: a failed request leaves the records as they were
  unless it got to a write that failed.
- Theorem `failed_changes_stay`: each of the three stores keeps what such a request changed.
-/

namespace Ax.Daemon

open TaskStore

def writeFails (path : Option String) (write : WriteOutcome) : Bool :=
  path.isSome && decide (write ≠ .done)

/-! ## The task store -/

def StoreCall.failed (c : StoreCall) (s : TaskStore) : Bool :=
  match c.op with
  | .create id input => !(s.create c.env id input).1.isOk
  | .updateWithConfirm id a => !(s.updateWithConfirm c.env id a).1.isOk
  | .cancel id reason workspace expected => !(s.cancel c.env id reason workspace expected).1.isOk
  | .remove id reason workspace expected => !(s.remove c.env id reason workspace expected).1.isOk
  | .retry id note workspace expected => !(s.retry c.env id note workspace expected).1.isOk
  | .recordDispatch .. | .markToolActivity .. | .recoverStaleInProgress .. => false

def StoreCall.ReachesWrite (c : StoreCall) (s : TaskStore) : Prop :=
  match c.op with
  | .create _ input => Text.trim input.parentTaskId = "" ∨
      ∃ parent, s.inner.get (Text.trim input.parentTaskId) = some parent ∧ parent.removedAt = none
  | .updateWithConfirm id a => ∃ t, s.inner.get id = some t ∧ validateTaskUpdate t a = .ok () ∧
      (applyUpdate c.env.unicode c.env.now a t).2 = true
  | .cancel id _ workspace expected => ∃ t, s.inner.get id = some t ∧
      validateTaskControl t workspace expected true = .ok () ∧ isTerminalStatus t.status = false
  | .remove id _ workspace expected => ∃ t, s.inner.get id = some t ∧
      validateTaskControl t workspace expected false = .ok () ∧ isTerminalStatus t.status = true
  | .retry id _ workspace expected => ∃ t, s.inner.get id = some t ∧
      validateTaskControl t workspace expected true = .ok () ∧ isOpenStatus t.status = true
  | .recordDispatch .. | .markToolActivity .. | .recoverStaleInProgress .. => False

lemma commit_isOk (env : StoreEnv) (s : TaskStore) (inner : TaskMap) (task : Task) :
    (commit env s inner task).1.isOk = !writeFails s.filePath env.write := by
  unfold commit persistLocked writeFails
  cases s.filePath with
  | none => rfl
  | some path => cases env.write <;> rfl

lemma storeAndRefresh_ne {m : TaskMap} {t t' : Task} (hget : m.get t'.id = some t)
    (hversion : t.version < t'.version) (now : Timestamp) : storeAndRefresh m t' now ≠ m := by
  intro hsame
  have hlookup := get_refreshParentRollup (KeyedMap.get_put_self m t') t'.parentTaskId now
  have hstored : (refreshParentRollup (m.put t') t'.parentTaskId now).get t'.id = some t :=
    (congrArg (fun m => KeyedMap.get m t'.id) hsame).trans hget
  rw [hstored] at hlookup
  rcases hlookup with heq | heq
  · obtain rfl := Option.some.inj heq
    exact lt_irrefl _ hversion
  · obtain rfl := Option.some.inj heq
    rcases refreshRollup_eq_or_version (m.put t') t' now with hkept | hnewer
    · rw [hkept] at hversion
      exact lt_irrefl _ hversion
    · omega

structure StoreCall.Settles (c : StoreCall) (s : TaskStore)
    (answer : Except TaskStoreError Task × TaskStore) : Prop where
  reaches : c.ReachesWrite s → ∃ inner task, answer = commit c.env s inner task ∧ inner ≠ s.inner
  refused : ¬c.ReachesWrite s → answer.2 = s

namespace StoreCall

variable {c : StoreCall} {s : TaskStore}

variable {id : String}

lemma Settles.of_rewriting {check keeps : Task → Prop} {rewrite : Task → Task}
    {answer : Except TaskStoreError Task × TaskStore}
    (h : Rewriting c.env s id check keeps rewrite answer)
    (hreaches : c.ReachesWrite s ↔ ∃ t, s.inner.get id = some t ∧ check t)
    (htouch : ∀ t, t.id = id → check t → Touch c t (rewrite t)) : c.Settles s answer := by
  cases h with
  | refused e hrefused =>
    refine ⟨fun hr => ?_, fun _ => rfl⟩
    obtain ⟨t, hget, hcheck⟩ := hreaches.mp hr
    exact absurd hcheck (hrefused t hget)
  | kept hget _ hfails =>
    refine ⟨fun hr => ?_, fun _ => rfl⟩
    obtain ⟨t, hget', hcheck⟩ := hreaches.mp hr
    exact absurd (Option.some.inj (hget'.symm.trans hget) ▸ hcheck) hfails
  | @committed t hget hcheck =>
    refine ⟨fun _ => ⟨_, _, rfl, ?_⟩, fun hr => absurd (hreaches.mpr ⟨t, hget, hcheck⟩) hr⟩
    obtain rfl := KeyedMap.key_of_get hget
    have hmut := htouch t rfl hcheck
    refine storeAndRefresh_ne (t := t) ?_ ?_ _
    · rw [hmut.id_eq]
      exact hget
    · rw [hmut.version_eq]
      omega

/-- What a creation comes to. -/
theorem settles_create {input : CreateTaskInput} (hop : c.op = .create id input)
    (hfresh : c.Fresh s) : c.Settles s (s.create c.env id input) := by
  simp only [Fresh, hop] at hfresh
  obtain ⟨hnone, hne⟩ := hfresh
  have hundo : (s.inner.put (newTask c.env.now id input)).remove id = s.inner :=
    KeyedMap.remove_put (v := newTask c.env.now id input) hnone
  have hlookup : (s.inner.put (newTask c.env.now id input)).get (Text.trim input.parentTaskId) =
      s.inner.get (Text.trim input.parentTaskId) :=
    KeyedMap.get_put_of_ne _ (Ne.symm hne)
  have hparentId : (newTask c.env.now id input).parentTaskId = Text.trim input.parentTaskId := rfl
  have hnew : (s.inner.put (newTask c.env.now id input)).get id = some _ :=
    KeyedMap.get_put_self s.inner (newTask c.env.now id input)
  constructor
  · intro h
    simp only [ReachesWrite, hop] at h
    unfold create
    simp only [hparentId, hlookup]
    by_cases hroot : Text.trim input.parentTaskId = ""
    · refine ⟨_, _, by rw [if_pos hroot], fun hsame => ?_⟩
      rw [hsame, hnone] at hnew
      cases hnew
    · obtain ⟨parent, hparent, hlive⟩ := h.resolve_left hroot
      refine ⟨_, _, by rw [if_neg hroot, hparent]; simp only [hlive]; rfl, fun hsame => ?_⟩
      have hid : id ≠ (adoptChild c.env.now parent id).id := by
        rw [adoptChild_id, KeyedMap.key_of_get hparent]
        exact hne
      rcases get_refreshParentRollup ((KeyedMap.get_put_of_ne _ hid).trans hnew)
          (Text.trim input.parentTaskId) c.env.now with heq | heq <;>
        rw [hsame, hnone] at heq <;> cases heq
  · intro h
    simp only [ReachesWrite, hop, not_or, not_exists, not_and] at h
    unfold create
    simp only [hparentId, hlookup, if_neg h.1]
    cases hparent : s.inner.get (Text.trim input.parentTaskId) with
    | none => simp only [hundo]
    | some parent =>
      have hremoved : parent.removedAt.isSome = true :=
        Option.isSome_iff_ne_none.mpr (h.2 parent hparent)
      simp only [if_pos hremoved, hundo]

lemma settles_update {a : UpdateArgs} (hop : c.op = .updateWithConfirm id a) :
    c.Settles s (s.updateWithConfirm c.env id a) := by
  refine .of_rewriting rewriting_update (by simp only [ReachesWrite, hop]) ?_
  rintro t rfl ⟨hvalid, hchanged⟩
  exact .updated hop hvalid hchanged

variable {workspace : String} {expected : Option Int}

lemma settles_cancel {reason : String} (hop : c.op = .cancel id reason workspace expected) :
    c.Settles s (s.cancel c.env id reason workspace expected) := by
  refine .of_rewriting rewriting_cancel (by simp only [ReachesWrite, hop]) ?_
  rintro t rfl ⟨hvalid, hopen⟩
  exact .cancelled hop hvalid hopen

lemma settles_remove {reason : String} (hop : c.op = .remove id reason workspace expected) :
    c.Settles s (s.remove c.env id reason workspace expected) := by
  refine .of_rewriting rewriting_remove (by simp only [ReachesWrite, hop]) ?_
  rintro t rfl ⟨hvalid, hterminal⟩
  exact .removed hop hvalid hterminal

lemma settles_retry {note : String} (hop : c.op = .retry id note workspace expected) :
    c.Settles s (s.retry c.env id note workspace expected) := by
  refine .of_rewriting rewriting_retry (by simp only [ReachesWrite, hop]) ?_
  rintro t rfl ⟨hvalid, hopen⟩
  exact .retried hop hvalid hopen

lemma Settles.failed_iff {answer : Except TaskStoreError Task × TaskStore}
    (h : c.Settles s answer) :
    ((!answer.1.isOk) = true → answer.2.inner = s.inner) ↔
      ¬(writeFails s.filePath c.env.write = true ∧ c.ReachesWrite s) := by
  by_cases hreaches : c.ReachesWrite s
  · obtain ⟨inner, task, rfl, hchanged⟩ := h.reaches hreaches
    rw [commit_isOk, commit_inner]
    simp [hreaches, hchanged]
  · simp [hreaches, h.refused hreaches]

lemma failed_iff (hfresh : c.Fresh s) :
    (c.failed s = true → (c.apply s).inner = s.inner) ↔
      ¬(writeFails s.filePath c.env.write = true ∧ c.ReachesWrite s) := by
  unfold failed apply
  cases hop : c.op with
  | create id input => exact (settles_create hop hfresh).failed_iff
  | updateWithConfirm id a => exact (settles_update hop).failed_iff
  | cancel id reason workspace expected => exact (settles_cancel hop).failed_iff
  | remove id reason workspace expected => exact (settles_remove hop).failed_iff
  | retry id note workspace expected => exact (settles_retry hop).failed_iff
  | recordDispatch id recipient when_ => simp [ReachesWrite, hop]
  | markToolActivity id by_ when_ => simp [ReachesWrite, hop]
  | recoverStaleInProgress isSessionLive => simp [ReachesWrite, hop]

end StoreCall

/-! ## The three stores -/

structure StateStores where
  tasks : TaskStore
  values : SharedValues
  teams : TeamStateStore

def StateStores.memory (s : StateStores) :
    TaskMap × BTreeMap String String × TeamStateMap :=
  (s.tasks.inner, s.values.inner, s.teams.inner)

inductive StateChange
  | task (c : StoreCall)
  | set (write : WriteOutcome) (key value : String)
  | put (write : WriteOutcome) (state : TeamReconfigureState)

namespace StateChange

def Fresh (r : StateChange) (s : StateStores) : Prop :=
  match r with
  | .task c => c.Fresh s.tasks
  | .set .. | .put .. => True

def apply (r : StateChange) (s : StateStores) : StateStores :=
  match r with
  | .task c => { s with tasks := c.apply s.tasks }
  | .set write key value => { s with values := (s.values.set write key value).2 }
  | .put write state => { s with teams := (s.teams.put write state).2 }

/-- Did the request answer with an error? -/
def failed (r : StateChange) (s : StateStores) : Bool :=
  match r with
  | .task c => c.failed s.tasks
  | .set write key value => !(s.values.set write key value).1.isOk
  | .put write state => !(s.teams.put write state).1.isOk

def LosesWrite (r : StateChange) (s : StateStores) : Prop :=
  match r with
  | .task c => writeFails s.tasks.filePath c.env.write = true ∧ c.ReachesWrite s.tasks
  | .set write key value => writeFails s.values.path write = true ∧ s.values.get key ≠ some value
  | .put write state =>
    writeFails s.teams.filePath write = true ∧ s.teams.get state.teamId ≠ some state

end StateChange

lemma set_isOk (s : SharedValues) (write : WriteOutcome) (key value : String) :
    (s.set write key value).1.isOk = !writeFails s.path write := by
  unfold SharedValues.set writeFails
  cases s.path with
  | none => rfl
  | some path => cases write <;> rfl

lemma put_isOk (s : TeamStateStore) (write : WriteOutcome) (state : TeamReconfigureState) :
    (s.put write state).1.isOk = !writeFails s.filePath write := by
  unfold TeamStateStore.put TeamStateStore.persistLocked writeFails
  cases s.filePath with
  | none => rfl
  | some path => cases write <;> rfl

lemma insert_eq_self_iff (m : BTreeMap String String) (key value : String) :
    m.insert key value = m ↔ m[key]? = some value := by
  constructor
  · intro hsame
    rw [← hsame]
    exact BTreeMap.get?_insert_self m key value
  · intro hget
    refine BTreeMap.ext_get? fun k => ?_
    rw [BTreeMap.get?_insert]
    split
    · rename_i hk
      rw [hk, hget]
    · rfl

lemma put_eq_self_iff (m : TeamStateMap) (state : TeamReconfigureState) :
    m.put state = m ↔ m.get state.teamId = some state := by
  constructor
  · intro hsame
    rw [← hsame]
    exact KeyedMap.get_put_self m state
  · exact KeyedMap.put_of_get

/-- A failed request leaves what the stores hold in memory as it was, unless it got to
a write that failed and had something new to write. -/
theorem failed_change_iff {r : StateChange} {s : StateStores} (hfresh : r.Fresh s) :
    (r.failed s = true → (r.apply s).memory = s.memory) ↔ ¬r.LosesWrite s := by
  cases r with
  | task c =>
    have hmemory : (StateChange.apply (.task c) s).memory = s.memory ↔
        (c.apply s.tasks).inner = s.tasks.inner := by
      simp [StateChange.apply, StateStores.memory]
    simp only [StateChange.failed, StateChange.LosesWrite, hmemory]
    exact StoreCall.failed_iff hfresh
  | set write key value =>
    have hmemory : (StateChange.apply (.set write key value) s).memory = s.memory ↔
        s.values.get key = some value := by
      simp [StateChange.apply, StateStores.memory, insert_eq_self_iff, SharedValues.get]
    simp only [StateChange.failed, StateChange.LosesWrite, hmemory, set_isOk, Bool.not_not,
      not_and, not_not]
  | put write state =>
    have hmemory : (StateChange.apply (.put write state) s).memory = s.memory ↔
        s.teams.get state.teamId = some state := by
      simp [StateChange.apply, StateStores.memory, put_eq_self_iff, TeamStateStore.get]
    simp only [StateChange.failed, StateChange.LosesWrite, hmemory, put_isOk, Bool.not_not,
      not_and, not_not]

def freshStores : StateStores where
  tasks := { inMemory with filePath := some "/state/tasks-state.json" }
  values := { SharedValues.inMemory with path := some "/state/shared_values.json" }
  teams := { TeamStateStore.inMemory with filePath := some "/state/team_states.json" }

def fullDisk (now : Timestamp) : StoreEnv where
  unicode := .ascii
  now := now
  write := .writeFailed "no space left on device"

/-- The theorem at a task that somebody else tries to cancel while the disk is full. -/
theorem failed_cancel_keeps_memory :
    let create := StateChange.task (callAt 0 (.create "a" (plainInput "worker" "owner" "")))
    let s := create.apply freshStores
    let r := StateChange.task ⟨fullDisk 1, .cancel "a" "" "guest" none⟩
    (s.tasks.inner.get "a").isSome = true ∧ r.failed s = true ∧ (r.apply s).memory = s.memory := by
  intro create s r
  have hrefused : (s.tasks.inner.get "a").any fun t =>
      !(validateTaskControl t "guest" none true).isOk := by
    decide +kernel
  have hkeeps : ¬r.LosesWrite s := by
    rintro ⟨-, t, hget, hvalid, -⟩
    rw [hget, Option.any_some, hvalid] at hrefused
    cases hrefused
  have hfailed : r.failed s = true := by decide +kernel
  have hfresh : r.Fresh s := trivial
  exact ⟨by decide +kernel, hfailed, (failed_change_iff hfresh).mpr hkeeps hfailed⟩

def firstTeamState (teamId : String) : TeamReconfigureState where
  teamId := teamId
  baseConfigPath := ""
  effectiveConfigPath := ""
  featureEnabled := true
  revision := 0
  overlay := TeamOverlay.default
  desired := ⟨true, [], [], []⟩
  lastApply := none

/-- A creation, a shared value and a team state whose write meets a full disk: each
request fails and is seen afterwards all the same. -/
theorem failed_changes_stay :
    let create := StateChange.task ⟨fullDisk 0, .create "a" (plainInput "worker" "owner" "")⟩
    let set := StateChange.set (fullDisk 0).write "key" "value"
    let put := StateChange.put (fullDisk 0).write (firstTeamState "team")
    (create.failed freshStores = true ∧
      ((create.apply freshStores).tasks.inner.get "a").isSome = true) ∧
    (set.failed freshStores = true ∧
      (set.apply freshStores).values.get "key" = some "value") ∧
    (put.failed freshStores = true ∧
      ((put.apply freshStores).teams.get "team").isSome = true) := by
  decide +kernel

end Ax.Daemon
