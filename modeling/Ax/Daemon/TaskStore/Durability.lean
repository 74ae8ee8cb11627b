import Ax.Proto.TaskCodec
import Ax.Daemon.FailedWrites

/-!
# Durability of the task store

Callers on any number of threads change the records under one mutex, which they
hold until the records are written to `tasks-state.json`.  The file holds JSON, so
what a restarted daemon finds depends on the codec of task records as well as on
the order of the writes.

Main results:

- Theorem `tasks_durable`: whenever no call is in progress, the file loads to the records in memory.
-/

namespace Ax.Daemon

open TaskStore

abbrev DiskFile := FileContent (Option Json)

/-! ## Reading and writing the file -/

section Disk

variable (time : Codec Timestamp)

def encodeTasks (inner : TaskMap) : Json :=
  (Codec.list (TaskCodec.task time)).encode (inner.values.map clearDerivedFields)

def decodeTasks : DiskFile → FileContent (List Task)
  | .absent => .absent
  | .unreadable source => .unreadable source
  | .undecodable source => .undecodable source
  | .holds none => .holds []
  | .holds (some json) =>
    match (Codec.list (TaskCodec.task time)).decode json with
    | .ok tasks => .holds tasks
    | .error source => .undecodable source

def loadDisk (stateDir : String) (primary legacy : DiskFile) : Except TaskStoreError TaskStore :=
  load stateDir (decodeTasks time primary) (decodeTasks time legacy)

lemma decodeTasks_encodeTasks (inner : TaskMap) :
    decodeTasks time (.holds (some (encodeTasks time inner))) =
      .holds (inner.values.map clearDerivedFields) := by
  simp only [decodeTasks, encodeTasks, Codec.decode_encode]

end Disk

variable {id : String} {s : TaskStore} {c : StoreCall}

lemma get_foldl_put_of_ne {tasks : List Task} (hne : ∀ x ∈ tasks, x.id ≠ id) (m : TaskMap) :
    (tasks.foldl (fun inner task => inner.put (clearDerivedFields task)) m).get id =
      m.get id := by
  induction tasks generalizing m with
  | nil => rfl
  | cons task rest ih =>
    rw [List.foldl_cons, ih fun x hx => hne x (List.mem_cons_of_mem _ hx)]
    exact KeyedMap.get_put_of_ne m (Ne.symm (hne task List.mem_cons_self))

lemma get_foldl_put_of_mem {tasks : List Task} (hnodup : (tasks.map Task.id).Nodup) {t : Task}
    (hmem : t ∈ tasks) (m : TaskMap) :
    (tasks.foldl (fun inner task => inner.put (clearDerivedFields task)) m).get t.id =
      some (clearDerivedFields t) := by
  induction tasks generalizing m with
  | nil => cases hmem
  | cons task rest ih =>
    obtain ⟨hnew, hrest⟩ := List.nodup_cons.mp hnodup
    rw [List.foldl_cons]
    rcases List.mem_cons.mp hmem with rfl | hlater
    · rw [get_foldl_put_of_ne fun x hx hid => hnew (List.mem_map.mpr ⟨x, hx, hid⟩)]
      exact KeyedMap.get_put_self m (clearDerivedFields t)
    · exact ih hrest hlater _

lemma get_recordsOf_values (m : TaskMap) (id : String) :
    (recordsOf (m.values.map clearDerivedFields)).get id =
      (m.get id).map clearDerivedFields := by
  have hids : ((m.values.map clearDerivedFields).map Task.id).Nodup := by
    rw [List.map_map]
    exact KeyedMap.nodup_map_values m
  unfold recordsOf
  cases hget : m.get id with
  | none =>
    rw [get_foldl_put_of_ne]
    · simp
    · intro x hx hid
      obtain ⟨t, ht, rfl⟩ := List.mem_map.mp hx
      have hstored : m.get id = some t := hid ▸ KeyedMap.mem_values_iff.mp ht
      rw [hget] at hstored
      cases hstored
  | some t =>
    obtain rfl := KeyedMap.key_of_get hget
    exact get_foldl_put_of_mem hids
      (List.mem_map_of_mem (KeyedMap.mem_values_iff.mpr hget)) KeyedMap.empty

lemma clearDerivedFields_of_recordsOf (tasks : List Task) :
    AllRecords (fun t => clearDerivedFields t = t) (recordsOf tasks) := by
  have hall : ∀ m, AllRecords (fun t => clearDerivedFields t = t) m →
      AllRecords (fun t => clearDerivedFields t = t)
        (tasks.foldl (fun inner task => inner.put (clearDerivedFields task)) m) := by
    induction tasks with
    | nil => exact fun m h => h
    | cons task rest ih => exact fun m h => ih _ (h.put rfl)
  refine hall _ fun id t hget => ?_
  simp at hget

/-! ## Calls that write -/

def StoreCall.Persists (c : StoreCall) (s : TaskStore) : Prop :=
  match c.op with
  | .recordDispatch id recipient _ => ∃ t, s.inner.get id = some t ∧ t.removedAt = none ∧
      t.assignee = recipient
  | .markToolActivity id by_ _ => ∃ t, s.inner.get id = some t ∧ t.removedAt = none ∧
      t.status = .inProgress ∧ t.assignee = by_
  | .recoverStaleInProgress isSessionLive => recoverCandidates isSessionLive s.inner ≠ []
  | _ => c.ReachesWrite s

lemma Stamping.eq_self {env : StoreEnv} {check : Task → Prop} {stamp : Task → Task}
    {answer : Option Task × TaskStore} (h : Stamping env s id check stamp answer)
    (hnone : ¬∃ t, s.inner.get id = some t ∧ check t) : answer.2 = s := by
  cases h with
  | refused => rfl
  | stored hget hcheck => exact absurd ⟨_, hget, hcheck⟩ hnone

lemma Stamping.filePath {env : StoreEnv} {check : Task → Prop} {stamp : Task → Task}
    {answer : Option Task × TaskStore} (h : Stamping env s id check stamp answer) :
    answer.2.filePath = s.filePath := by
  cases h with
  | refused => rfl
  | stored => exact persistLocked_filePath _ _

lemma StoreCall.apply_of_not_persists (hfresh : c.Fresh s) (h : ¬c.Persists s) :
    c.apply s = s := by
  unfold Persists at h
  unfold apply
  cases hop : c.op with
  | create id input =>
    rw [hop] at h
    exact (settles_create hop hfresh).refused h
  | updateWithConfirm id a =>
    rw [hop] at h
    exact (settles_update hop).refused h
  | cancel id reason workspace expected =>
    rw [hop] at h
    exact (settles_cancel hop).refused h
  | remove id reason workspace expected =>
    rw [hop] at h
    exact (settles_remove hop).refused h
  | retry id note workspace expected =>
    rw [hop] at h
    exact (settles_retry hop).refused h
  | recordDispatch id recipient when_ =>
    rw [hop] at h
    exact stamping_dispatch.eq_self h
  | markToolActivity id by_ when_ =>
    rw [hop] at h
    exact stamping_activity.eq_self h
  | recoverStaleInProgress isSessionLive =>
    simp only [hop, ne_eq, not_not] at h
    simp only [recoverStaleInProgress, if_pos h]

@[simp]
lemma commit_filePath (env : StoreEnv) (s : TaskStore) (inner : TaskMap) (task : Task) :
    (commit env s inner task).2.filePath = s.filePath := by
  simp [commit]

lemma StoreCall.Settles.filePath {answer : Except TaskStoreError Task × TaskStore}
    (h : c.Settles s answer) : answer.2.filePath = s.filePath := by
  by_cases hreaches : c.ReachesWrite s
  · obtain ⟨inner, task, rfl, _⟩ := h.reaches hreaches
    exact commit_filePath _ _ _ _
  · rw [h.refused hreaches]

lemma StoreCall.apply_filePath (hfresh : c.Fresh s) : (c.apply s).filePath = s.filePath := by
  unfold apply
  cases hop : c.op with
  | create id input => exact (settles_create hop hfresh).filePath
  | updateWithConfirm id a => exact (settles_update hop).filePath
  | cancel id reason workspace expected => exact (settles_cancel hop).filePath
  | remove id reason workspace expected => exact (settles_remove hop).filePath
  | retry id note workspace expected => exact (settles_retry hop).filePath
  | recordDispatch id recipient when_ => exact stamping_dispatch.filePath
  | markToolActivity id by_ when_ => exact stamping_activity.filePath
  | recoverStaleInProgress isSessionLive =>
    dsimp only [recoverStaleInProgress]
    split <;> simp

/-! ## Critical sections -/

structure LockedStore where
  store : TaskStore
  disk : DiskFile
  holder : Option (Nat × StoreCall × TaskStore)

inductive LockEvent
  | enter (thread : Nat) (c : StoreCall)
  | leave (thread : Nat)

section Locked

variable (time : Codec Timestamp)

inductive LockStep : LockedStore → LockEvent → LockedStore → Prop
  | enter {s : TaskStore} {disk : DiskFile} (thread : Nat) {c : StoreCall} (hfresh : c.Fresh s) :
      LockStep ⟨s, disk, none⟩ (.enter thread c) ⟨c.apply s, disk, some (thread, c, s)⟩
  | write {s found : TaskStore} {disk : DiskFile} {thread : Nat} {c : StoreCall}
      (hwrites : c.Persists found) :
      LockStep ⟨s, disk, some (thread, c, found)⟩ (.leave thread)
        ⟨s, disk.replace c.env.write (some (encodeTasks time s.inner)), none⟩
  | skip {s found : TaskStore} {disk : DiskFile} {thread : Nat} {c : StoreCall}
      (hskips : ¬c.Persists found) :
      LockStep ⟨s, disk, some (thread, c, found)⟩ (.leave thread) ⟨s, disk, none⟩

def Durable (stateDir : String) (legacy disk : DiskFile) (s : TaskStore) : Prop :=
  ∃ loaded, loadDisk time stateDir disk legacy = .ok loaded ∧ loaded.filePath = s.filePath ∧
    ∀ id, loaded.inner.get id = (s.inner.get id).map clearDerivedFields

end Locked

variable {time : Codec Timestamp} {stateDir : String} {legacy : DiskFile}

lemma durable_of_load {disk : DiskFile} (h : loadDisk time stateDir disk legacy = .ok s) :
    Durable time stateDir legacy disk s := by
  refine ⟨s, h, rfl, fun id => ?_⟩
  have hcleared : AllRecords (fun t => clearDerivedFields t = t) s.inner := by
    unfold loadDisk load at h
    obtain ⟨inner, hinner, rfl⟩ := Result.map_eq_ok.mp h
    have hfile : ∀ path file, decodeFile path file = .ok inner →
        AllRecords (fun t => clearDerivedFields t = t) inner := by
      intro path file hdecode
      cases file with
      | absent =>
        obtain rfl := Except.ok.inj hdecode
        intro id t hget
        simp at hget
      | unreadable source => cases hdecode
      | undecodable source => cases hdecode
      | holds tasks =>
        obtain rfl := Except.ok.inj hdecode
        exact clearDerivedFields_of_recordsOf tasks
    split at hinner
    · exact hfile _ _ hinner
    · exact hfile _ _ hinner
  cases hget : s.inner.get id with
  | none => rfl
  | some t => rw [Option.map_some, hcleared id t hget]

lemma durable_of_write (disk : DiskFile)
    (hpath : s.filePath = some (stateDir ++ "/tasks-state.json")) :
    Durable time stateDir legacy (disk.replace .done (some (encodeTasks time s.inner))) s := by
  refine ⟨⟨some (stateDir ++ "/tasks-state.json"),
    recordsOf (s.inner.values.map clearDerivedFields),
    .holds (s.inner.values.map clearDerivedFields)⟩, ?_, hpath.symm, get_recordsOf_values s.inner⟩
  simp only [loadDisk, FileContent.replace, decodeTasks_encodeTasks, load, reduceCtorEq, if_false,
    decodeFile]
  rfl

def DurableWhenFree (time : Codec Timestamp) (stateDir : String) (legacy : DiskFile)
    (l : LockedStore) : Prop :=
  l.store.filePath = some (stateDir ++ "/tasks-state.json") ∧
    match l.holder with
    | none => Durable time stateDir legacy l.disk l.store
    | some (_, c, found) =>
      c.env.write = .done ∧ c.Fresh found ∧ l.store = c.apply found ∧
        Durable time stateDir legacy l.disk found

def LockEvent.writes : LockEvent → Prop
  | .enter _ c => c.env.write = .done
  | .leave _ => True

lemma DurableWhenFree.step {l l' : LockedStore} {e : LockEvent} (hstep : LockStep time l e l')
    (hwrites : e.writes) (h : DurableWhenFree time stateDir legacy l) :
    DurableWhenFree time stateDir legacy l' := by
  obtain ⟨hpath, h⟩ := h
  cases hstep with
  | enter thread hfresh =>
    exact ⟨(StoreCall.apply_filePath hfresh).trans hpath, hwrites, hfresh, rfl, h⟩
  | @write s found disk thread c =>
    obtain ⟨hdone, _⟩ := h
    refine ⟨hpath, ?_⟩
    rw [hdone]
    exact durable_of_write disk hpath
  | skip hskips =>
    obtain ⟨_, hfresh, hstore, hfound⟩ := h
    dsimp only at hpath hstore
    rw [StoreCall.apply_of_not_persists hfresh hskips] at hstore
    subst hstore
    exact ⟨hpath, hfound⟩

/-- From a loaded store, any interleaving of calls whose writes all succeed, at any point where no
call is in progress: loading the files gives the records in memory without their derived fields.
Every task is read back as it was written. -/
theorem tasks_durable {disk : DiskFile} {s : TaskStore}
    (hload : loadDisk time stateDir disk legacy = .ok s) {events : List LockEvent}
    {l : LockedStore} (hrun : Exec (LockStep time) ⟨s, disk, none⟩ events l)
    (hwrites : ∀ e ∈ events, e.writes) (hfree : l.holder = none) :
    (∃ loaded, loadDisk time stateDir l.disk legacy = .ok loaded ∧
      loaded.filePath = l.store.filePath ∧
      ∀ id, loaded.inner.get id = (l.store.inner.get id).map clearDerivedFields) ∧
    ∀ task, (TaskCodec.task time).decode ((TaskCodec.task time).encode task) = .ok task := by
  have hstart : DurableWhenFree time stateDir legacy ⟨s, disk, none⟩ := by
    refine ⟨?_, durable_of_load hload⟩
    obtain ⟨inner, _, rfl⟩ := Result.map_eq_ok.mp hload
    rfl
  have hend : DurableWhenFree time stateDir legacy l := by
    refine Exec.invariant_of_eachStep (P := fun _ e => e.writes) ?_ hrun hstart ?_
    · intro l e l' hstep h hdone
      exact h.step hstep hdone
    · rintro pre e post l' rfl _
      exact hwrites e (List.mem_append_right _ List.mem_cons_self)
  obtain ⟨_, hdurable⟩ := hend
  rw [hfree] at hdurable
  exact ⟨hdurable, (TaskCodec.task time).decode_encode⟩

def newStore : TaskStore :=
  ⟨some "/state/tasks-state.json", KeyedMap.empty, .absent⟩

def firstCreate : StoreCall :=
  callAt 1 (.create "a" (plainInput "worker" "owner" ""))

/-- A cancellation of a task that does not exist. -/
def missedCancel : StoreCall :=
  callAt 2 (.cancel "b" "" "owner" none)

/-- The theorem at a first task, followed by a call that another thread makes in
vain. -/
theorem first_task_durable :
    ∃ l loaded, Exec (LockStep Codec.int) ⟨newStore, .absent, none⟩
        [.enter 1 firstCreate, .leave 1, .enter 2 missedCancel, .leave 2] l ∧
      loadDisk Codec.int "/state" l.disk .absent = .ok loaded ∧
      (loaded.inner.get "a").isSome = true := by
  have hskips : ¬missedCancel.Persists (firstCreate.apply newStore) := by
    rintro ⟨t, hget, _⟩
    have hnone : (firstCreate.apply newStore).inner.get "b" = none := by decide +kernel
    rw [hnone] at hget
    cases hget
  have hrun : Exec (LockStep Codec.int) ⟨newStore, .absent, none⟩
      [.enter 1 firstCreate, .leave 1, .enter 2 missedCancel, .leave 2] _ :=
    Exec.cons (LockStep.enter 1 (by decide +kernel))
      (Exec.cons (LockStep.write (Or.inl (by decide +kernel)))
        (Exec.cons (LockStep.enter 2 trivial) (Exec.single (LockStep.skip hskips))))
  have hwrites : ∀ e ∈ [LockEvent.enter 1 firstCreate, .leave 1, .enter 2 missedCancel, .leave 2],
      e.writes := by
    simp [LockEvent.writes, callAt, firstCreate, missedCancel]
  have hload : loadDisk Codec.int "/state" .absent .absent = .ok newStore := rfl
  obtain ⟨⟨loaded, hloaded, _, hrecords⟩, _⟩ := tasks_durable hload hrun hwrites rfl
  refine ⟨_, loaded, hrun, hloaded, ?_⟩
  rw [hrecords]
  decide +kernel

end Ax.Daemon
