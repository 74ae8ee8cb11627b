import Ax.Daemon.TaskStore.Runs
import Ax.Daemon.Footprint

/-!
# Commands on the task store

A command of a job is at most one call of the task store, so whatever is known of
the runs of the store is known of the runs of the daemon.  A task in an answer is
the record that the store holds after the command.

Main results:

- Theorem `get_of_mem_tasks`: a task in an answer is the stored record.
- Theorem `party_of_mem_tasks`: the store answers a workspace with tasks that are new
  or that the workspace is a party of.
-/

namespace Ax.Daemon

open TaskStore

/-! ## Calls -/

def Cmd.storeCall (u : Unicode) (r : Reading) : Cmd → Option StoreCall
  | .createTask input => some ⟨r.storeEnv u, .create r.uuid input⟩
  | .updateTask id a => some ⟨r.storeEnv u, .updateWithConfirm id a⟩
  | .cancelTask id reason workspace expected =>
    some ⟨r.storeEnv u, .cancel id reason workspace expected⟩
  | .removeTask id reason workspace expected =>
    some ⟨r.storeEnv u, .remove id reason workspace expected⟩
  | .retryTask id note workspace expected => some ⟨r.storeEnv u, .retry id note workspace expected⟩
  | .recordDispatch id recipient stamp => some ⟨r.storeEnv u, .recordDispatch id recipient stamp⟩
  | .markToolActivity id by_ stamp => some ⟨r.storeEnv u, .markToolActivity id by_ stamp⟩
  | .recoverStaleInProgress => some ⟨r.storeEnv u, .recoverStaleInProgress r.sessionExists⟩
  | _ => none

lemma exec_taskStore (u : Unicode) (r : Reading) (d : HandlerCtx) (c : Cmd) :
    (c.exec u r d).2.taskStore =
      (c.storeCall u r).elim d.taskStore fun call => call.apply d.taskStore := by
  cases c <;> rfl

def Cmd.Fresh (u : Unicode) (r : Reading) (d : HandlerCtx) (c : Cmd) : Prop :=
  ∀ call ∈ c.storeCall u r, call.Fresh d.taskStore

lemma storeStep_exec {u : Unicode} {r : Reading} {d : HandlerCtx} {c : Cmd}
    (hfresh : c.Fresh u r d) :
    (c.exec u r d).2.taskStore = d.taskStore ∨
      ∃ call ∈ c.storeCall u r, StoreStep d.taskStore call (c.exec u r d).2.taskStore := by
  rw [exec_taskStore]
  cases hcall : c.storeCall u r with
  | none => exact Or.inl rfl
  | some call => exact Or.inr ⟨call, rfl, hfresh call hcall, rfl⟩

/-! ## Answers -/

namespace TaskStore

variable {env : StoreEnv} {s : TaskStore} {id : String} {task : Task} {answer : Task}

lemma get_of_commit (hid : task.id = id) {inner : TaskMap} {stored : Task}
    (hstored : inner.get id = some stored) (h : (commit env s inner task).1 = .ok answer) :
    (commit env s inner task).2.inner.get id = some answer := by
  obtain ⟨_, _, hanswer⟩ := Result.map_eq_ok.mp h
  rw [hid, hstored] at hanswer
  rw [commit_inner, hstored]
  exact congrArg some hanswer

lemma get_storeAndRefresh (inner : TaskMap) (task : Task) (now : Timestamp) :
    ∃ stored, (storeAndRefresh inner task now).get task.id = some stored := by
  rcases get_refreshParentRollup (KeyedMap.get_put_self inner task) task.parentTaskId now with
    h | h
  · exact ⟨_, h⟩
  · exact ⟨_, h⟩

lemma get_of_rewrite (hid : task.id = id)
    (h : (commit env s (storeAndRefresh s.inner task env.now) task).1 = .ok answer) :
    (commit env s (storeAndRefresh s.inner task env.now) task).2.inner.get id = some answer := by
  obtain ⟨stored, hstored⟩ := get_storeAndRefresh s.inner task env.now
  exact get_of_commit hid (hid ▸ hstored) h

lemma get_of_create {input : CreateTaskInput} (h : (s.create env id input).1 = .ok answer) :
    (s.create env id input).2.inner.get id = some answer := by
  unfold create at h ⊢
  have hid : (newTask env.now id input).id = id := rfl
  generalize newTask env.now id input = task at h hid ⊢
  have hnew : (s.inner.put task).get id = some task := hid ▸ KeyedMap.get_put_self s.inner task
  dsimp only at h ⊢
  by_cases hroot : task.parentTaskId = ""
  · rw [if_pos hroot] at h ⊢
    exact get_of_commit hid hnew h
  · rw [if_neg hroot] at h ⊢
    cases hparent : (s.inner.put task).get task.parentTaskId with
    | none =>
      rw [hparent] at h
      cases h
    | some parent =>
      rw [hparent] at h
      dsimp only at h ⊢
      by_cases hremoved : parent.removedAt.isSome = true
      · rw [if_pos hremoved] at h
        cases h
      · rw [if_neg hremoved] at h ⊢
        have hadopted : ∃ x, ((s.inner.put task).put (adoptChild env.now parent id)).get id =
            some x := by
          rw [KeyedMap.get_put]
          split
          · exact ⟨_, rfl⟩
          · exact ⟨_, hnew⟩
        obtain ⟨x, hx⟩ := hadopted
        rcases get_refreshParentRollup hx task.parentTaskId env.now with hget | hget
        · exact get_of_commit hid hget h
        · exact get_of_commit hid hget h

structure Accepted (s : TaskStore) (id : String) (valid : Task → Except TaskStoreError Unit)
    (answer : Task) (s' : TaskStore) : Prop where
  found : ∃ before, s.inner.get id = some before ∧ valid before = .ok ()
  stored : s'.inner.get id = some answer

lemma accepted_of_rewriting {valid : Task → Except TaskStoreError Unit}
    {check keeps : Task → Prop} {rewrite : Task → Task}
    {result : Except TaskStoreError Task × TaskStore}
    (h : Rewriting env s id check keeps rewrite result)
    (hvalid : ∀ t, check t ∨ keeps t → valid t = .ok ()) (hid : ∀ t, (rewrite t).id = t.id)
    (hok : result.1 = .ok answer) : Accepted s id valid answer result.2 := by
  obtain ⟨t, hget, ⟨rfl, hkeeps, hsame⟩ | ⟨hcheck, rfl⟩⟩ := h.of_ok hok
  · refine ⟨⟨_, hget, hvalid _ (.inr hkeeps)⟩, ?_⟩
    rw [hsame]
    exact hget
  · refine ⟨⟨t, hget, hvalid t (.inl hcheck)⟩, ?_⟩
    exact get_of_rewrite ((hid t).trans (KeyedMap.key_of_get hget)) hok

lemma accepted_update {a : UpdateArgs} (h : (s.updateWithConfirm env id a).1 = .ok answer) :
    Accepted s id (fun before => validateTaskUpdate before a) answer
      (s.updateWithConfirm env id a).2 :=
  accepted_of_rewriting rewriting_update (fun _ h => h.elim And.left And.left)
    (fun t => (congrArg Task.id (updateFrame_applyUpdate env.unicode env.now a t) :)) h

section Control

variable {note workspace : String} {expected : Option Int} {answer : Task}

lemma accepted_cancel (h : (s.cancel env id note workspace expected).1 = .ok answer) :
    Accepted s id (fun before => validateTaskControl before workspace expected true) answer
      (s.cancel env id note workspace expected).2 :=
  accepted_of_rewriting rewriting_cancel (fun _ h => h.elim And.left False.elim)
    (fun t => (congrArg Task.id (updateFrame_cancelRecord env.now note workspace t) :)) h

lemma accepted_remove (h : (s.remove env id note workspace expected).1 = .ok answer) :
    Accepted s id (fun before => validateTaskControl before workspace expected false) answer
      (s.remove env id note workspace expected).2 :=
  accepted_of_rewriting rewriting_remove (fun _ h => h.elim And.left False.elim)
    (fun _ => rfl) h

lemma accepted_retry (h : (s.retry env id note workspace expected).1 = .ok answer) :
    Accepted s id (fun before => validateTaskControl before workspace expected true) answer
      (s.retry env id note workspace expected).2 :=
  accepted_of_rewriting rewriting_retry (fun _ h => h.elim And.left False.elim)
    (fun t => (congrArg Task.id (updateFrame_retryRecord env.now note workspace t) :)) h

lemma accepted_intervention (h : s.getForIntervention id workspace expected = .ok answer) :
    Accepted s id (fun before => validateTaskControl before workspace expected true) answer s := by
  obtain ⟨hget, hvalid, _⟩ := getForIntervention_eq_ok_iff.mp h
  exact ⟨⟨answer, hget, hvalid⟩, hget⟩

end Control

end TaskStore

variable {u : Unicode} {r : Reading} {d : HandlerCtx} {c : Cmd} {task : Task}

/-- A task in an answer is the stored record. -/
theorem get_of_mem_tasks (h : task ∈ c.tasks (c.exec u r d).1) :
    (c.exec u r d).2.taskStore.inner.get task.id = some task := by
  -- The answer was read under the key that the record has.
  have hkeyed : ∀ {m : TaskMap} {id : String}, m.get id = some task →
      m.get task.id = some task := by
    intro m id hget
    rw [KeyedMap.key_of_get hget]
    exact hget
  cases c with
  | createTask input =>
    simp only [Cmd.tasks, Cmd.exec] at h ⊢
    exact hkeyed (get_of_create (Result.mem_toOption.mp h))
  | updateTask id a => exact hkeyed (accepted_update (Result.mem_toOption.mp h)).stored
  | cancelTask id reason workspace expected =>
    exact hkeyed (accepted_cancel (Result.mem_toOption.mp h)).stored
  | removeTask id reason workspace expected =>
    exact hkeyed (accepted_remove (Result.mem_toOption.mp h)).stored
  | retryTask id note workspace expected =>
    exact hkeyed (accepted_retry (Result.mem_toOption.mp h)).stored
  | taskForIntervention id workspace expected =>
    exact hkeyed (accepted_intervention (Result.mem_toOption.mp h)).stored
  | runnableByAssignee assignee => exact KeyedMap.mem_values_iff.mp (List.mem_filter.mp h).1
  | listSilentInProgress stamp threshold =>
    exact KeyedMap.mem_values_iff.mp (List.mem_filter.mp h).1
  | _ => cases h

lemma posted_exec (u : Unicode) (r : Reading) (d : HandlerCtx) (c : Cmd) :
    c.Posted (c.exec u r d).1 := by
  cases c with
  | enqueue msg => exact MessageQueue.stamp_recipient r.now r.uuid msg
  | _ => exact trivial

/-! ## Who may act on a task -/

def Party (t : Task) (x : String) : Prop :=
  x = t.assignee ∨ x = t.createdBy ∨ x = operatorWorkspaceName

instance (t : Task) (x : String) : Decidable (Party t x) :=
  inferInstanceAs (Decidable (_ ∨ _ ∨ _))

lemma party_of_update {t : Task} {a : UpdateArgs} (h : validateTaskUpdate t a = .ok ()) :
    Party t a.workspace := by
  rcases (validateTaskUpdate_eq_ok_iff.mp h).party with hassignee | hcreator
  · exact Or.inl hassignee
  · exact Or.inr (Or.inl hcreator)

variable {x : String}

lemma party_of_control {t : Task} {expected : Option Int} {allowAssignee : Bool}
    (h : validateTaskControl t x expected allowAssignee = .ok ()) : Party t x := by
  unfold validateTaskControl at h
  split at h
  · cases h
  · split at h
    · cases h
    · split at h
      · rename_i howner
        rcases howner with hoperator | hcreator
        · exact Or.inr (Or.inr hoperator)
        · exact Or.inr (Or.inl hcreator)
      · split at h
        · rename_i hassignee
          exact Or.inl hassignee.2
        · cases h

lemma party_of_accepted {s s' : TaskStore} {id : String}
    {valid : Task → Except TaskStoreError Unit} (hvalid : ∀ t, valid t = .ok () → Party t x)
    (h : Accepted s id valid task s') :
    ∃ before, s.inner.get task.id = some before ∧ Party before x := by
  obtain ⟨before, hget, hok⟩ := h.found
  rw [KeyedMap.key_of_get h.stored]
  exact ⟨before, hget, hvalid before hok⟩

/-- The tasks that a workspace is answered with are new, or it is a party of them. -/
theorem party_of_mem_tasks (hx : x ∈ c.asksFor) (h : task ∈ c.tasks (c.exec u r d).1) :
    (∃ input, c = .createTask input ∧ task.id = r.uuid) ∨
      ∃ before, d.taskStore.inner.get task.id = some before ∧ Party before x := by
  cases c with
  | createTask input =>
    simp only [Cmd.tasks, Cmd.exec] at h
    exact Or.inl ⟨input, rfl, KeyedMap.key_of_get (get_of_create (Result.mem_toOption.mp h))⟩
  | updateTask id a =>
    obtain rfl := Option.some.inj hx
    exact Or.inr (party_of_accepted (fun _ => party_of_update)
      (accepted_update (Result.mem_toOption.mp h)))
  | cancelTask id reason workspace expected =>
    obtain rfl := Option.some.inj hx
    exact Or.inr (party_of_accepted (fun _ => party_of_control)
      (accepted_cancel (Result.mem_toOption.mp h)))
  | removeTask id reason workspace expected =>
    obtain rfl := Option.some.inj hx
    exact Or.inr (party_of_accepted (fun _ => party_of_control)
      (accepted_remove (Result.mem_toOption.mp h)))
  | retryTask id note workspace expected =>
    obtain rfl := Option.some.inj hx
    exact Or.inr (party_of_accepted (fun _ => party_of_control)
      (accepted_retry (Result.mem_toOption.mp h)))
  | taskForIntervention id workspace expected =>
    obtain rfl := Option.some.inj hx
    exact Or.inr (party_of_accepted (fun _ => party_of_control)
      (accepted_intervention (Result.mem_toOption.mp h)))
  | runnableByAssignee assignee =>
    obtain rfl := Option.some.inj hx
    obtain ⟨hvalue, hrunnable⟩ := List.mem_filter.mp h
    refine Or.inr ⟨task, KeyedMap.mem_values_iff.mp hvalue, Or.inl ?_⟩
    split at hrunnable
    · cases hrunnable
    · rename_i hmine
      exact (not_not.mp fun hother => hmine (Or.inr hother)).symm
  | _ => cases hx

end Ax.Daemon
