import Ax.Foundation.Forest
import Ax.Daemon.TaskStore.Runs

/-!
# The forest of tasks

A task names its parent and lists its children.  A creation inserts the child
before it looks the parent up, so a failing one has to take it out again.  The
links of the store are an instance of the general forests, and every call
either keeps them or adds one fresh node.

Main results:

- Theorem `task_forest`: over every run from an empty store the links form a
  forest, and a creation that fails for its parent leaves the store as it was.
-/

namespace Ax.Daemon

open TaskStore

def nodeOf (t : Task) : Node String where
  parent := if t.parentTaskId = "" then none else some t.parentTaskId
  children := t.childTaskIds

def links (m : TaskMap) : Links String := fun id => (m.get id).map nodeOf

variable {m : TaskMap} {c : StoreCall} {id : String} {input : CreateTaskInput}

lemma parent_links_iff {p c : String} :
    (links m).Parent p c ↔ ∃ t, m.get c = some t ∧ t.parentTaskId = p ∧ p ≠ "" := by
  unfold Links.Parent links
  cases m.get c with
  | none => simp
  | some t =>
    by_cases hroot : t.parentTaskId = ""
    · simp only [Option.map_some, Option.some.injEq, exists_eq_left', nodeOf, hroot,
        if_true, reduceCtorEq, false_iff]
      rintro ⟨rfl, hne⟩
      exact hne rfl
    · simp only [Option.map_some, Option.some.injEq, exists_eq_left', nodeOf, hroot,
        if_false, iff_self_and]
      rintro rfl
      exact hroot

lemma links_put (m : TaskMap) (t : Task) (id : String) :
    links (m.put t) id = if id = t.id then some (nodeOf t) else links m id := by
  unfold links
  rw [KeyedMap.get_put]
  split <;> rfl

lemma links_put_of_node_eq {t t' : Task} (hget : m.get t'.id = some t)
    (hnode : nodeOf t' = nodeOf t) : links (m.put t') = links m := by
  funext id
  rw [links_put]
  split
  · rename_i hid
    simp [links, hid, hget, hnode]
  · rfl

lemma links_touch {t t' : Task} (hget : m.get t.id = some t) (htouch : Touch c t t') :
    links (m.put t') = links m := by
  refine links_put_of_node_eq (htouch.id_eq ▸ hget) ?_
  simp [nodeOf, htouch.parentTaskId_eq, htouch.childTaskIds_eq]

@[simp]
lemma links_refreshParentRollup (m : TaskMap) (parentId : String) (now : Timestamp) :
    links (refreshParentRollup m parentId now) = links m := by
  rcases refreshParentRollup_cases m parentId now with ⟨heq, _⟩ | ⟨parent, _, hget, _, heq⟩
  · rw [heq]
  · rw [heq]
    refine links_put_of_node_eq (t := parent) ?_ ?_
    · rw [refreshRollup_id, KeyedMap.key_of_get hget]
      exact hget
    · rw [refreshRollup_frame]
      rfl

lemma links_recoverAll {isSessionLive : String → Bool} (m : TaskMap)
    (hop : c.op = .recoverStaleInProgress isSessionLive) :
    links (recoverAll c.env.unicode c.env.now (recoverCandidates isSessionLive m) m) =
      links m := by
  have hrefresh : ∀ (parents : List String) (m' : TaskMap),
      links (parents.foldl (fun all parentId => refreshParentRollup all parentId c.env.now) m') =
        links m' := by
    intro parents
    induction parents with
    | nil => exact fun _ => rfl
    | cons parentId rest ih =>
      intro m'
      rw [List.foldl_cons, ih, links_refreshParentRollup]
  refine (hrefresh _ _).trans ?_
  refine recoverCandidates_induction (P := fun acc => links acc.1 = links m) ?_ rfl
  intro acc t hkept _ hget hstale
  rw [recoverOne_of_get hget]
  exact (links_touch hget (Touch.recovered hop hstale)).trans hkept

lemma links_createdRoot {now : Timestamp} (hroot : Text.trim input.parentTaskId = "") :
    links (m.put (newTask now id input)) = (links m).add none id := by
  funext k
  rw [links_put]
  simp [Links.add, nodeOf, newTask, hroot]

lemma links_createdChild {now : Timestamp} {parent : Task}
    (hchild : Text.trim input.parentTaskId ≠ "")
    (hparent : m.get (Text.trim input.parentTaskId) = some parent)
    (hne : Text.trim input.parentTaskId ≠ id) (hunlisted : id ∉ parent.childTaskIds) :
    links ((m.put (newTask now id input)).put (adoptChild now parent id)) =
      (links m).add (some (Text.trim input.parentTaskId)) id := by
  have hid : parent.id = Text.trim input.parentTaskId := KeyedMap.key_of_get hparent
  have hnode : nodeOf (adoptChild now parent id) =
      { nodeOf parent with children := parent.childTaskIds ++ [id] } := by
    simp [adoptChild, hunlisted, nodeOf, bump]
  have hnew : nodeOf (newTask now id input) = ⟨some (Text.trim input.parentTaskId), []⟩ := by
    simp [nodeOf, newTask, hchild]
  funext k
  rw [links_put, links_put, adoptChild_id, hid, hnode, hnew]
  unfold Links.add
  by_cases hk : k = id
  · subst hk
    simp [Ne.symm hne, newTask]
  · by_cases hp : k = Text.trim input.parentTaskId
    · subst hp
      simp [hne, links, hparent, nodeOf]
    · simp [hk, hp, Ne.symm hp, newTask]

lemma forest_effect {m' : TaskMap} (h : Forest (links m)) (heffect : Effect c m m') :
    Forest (links m') := by
  cases heffect with
  | unchanged => exact h
  | rewritten hget htouch =>
    rw [storeAndRefresh, links_refreshParentRollup, links_touch hget htouch]
    exact h
  | stamped hget htouch =>
    rw [links_touch hget htouch]
    exact h
  | createdRoot _ hfresh hroot =>
    rw [links_createdRoot hroot]
    exact h.add (by simp [links, hfresh]) nofun
  | @createdChild id input parent _ hfresh hchild hparent _ =>
    have hnone : links m id = none := by simp [links, hfresh]
    have hne : Text.trim input.parentTaskId ≠ id := by
      intro heq
      rw [heq, hfresh] at hparent
      cases hparent
    have hunlisted : id ∉ parent.childTaskIds := by
      intro hmem
      obtain ⟨n, hn, _⟩ := h.named (p := Text.trim input.parentTaskId) (n := nodeOf parent)
        (by simp [links, hparent]) hmem
      rw [hnone] at hn
      cases hn
    rw [links_refreshParentRollup, links_createdChild hchild hparent hne hunlisted]
    refine h.add hnone fun p hp => ?_
    rw [← Option.some.inj hp]
    simp [links, hparent]
  | recovered hop =>
    rw [links_recoverAll m hop]
    exact h

lemma forest_of_run {s s' : TaskStore} {calls : List StoreCall}
    (hempty : s.inner = KeyedMap.empty) (hrun : Exec StoreStep s calls s') :
    Forest (links s'.inner) := by
  refine Exec.invariant (P := fun s => Forest (links s.inner)) ?_ hrun ?_
  · rintro s c t ⟨hfresh, rfl⟩ h
    exact forest_effect h (StoreCall.effect hfresh)
  · have hnone : links s.inner = fun _ => none := by
      funext id
      simp [links, hempty]
    rw [hnone]
    exact Forest.empty

lemma create_of_bad_parent {env : StoreEnv} {s : TaskStore}
    (hfresh : StoreCall.Fresh ⟨env, .create id input⟩ s)
    (hfails : ∃ parentId, (s.create env id input).1 = .error (.parentNotFound parentId) ∨
      (s.create env id input).1 = .error (.parentRemoved parentId)) :
    (s.create env id input).2 = s := by
  have hundo : (s.inner.put (newTask env.now id input)).remove id = s.inner :=
    KeyedMap.remove_put (v := newTask env.now id input) hfresh.1
  -- A creation that gets as far as its commit fails only for the write.
  have hcommit : ∀ inner task, ¬∃ parentId,
      (commit env s inner task).1 = .error (.parentNotFound parentId) ∨
        (commit env s inner task).1 = .error (.parentRemoved parentId) := by
    rintro inner task ⟨parentId, herror | herror⟩ <;>
      rcases commit_error herror with ⟨_, heq⟩ | ⟨_, heq⟩ <;> cases heq
  unfold create at hfails ⊢
  dsimp only at hfails ⊢
  split
  · rename_i hroot
    rw [if_pos hroot] at hfails
    exact absurd hfails (hcommit _ _)
  · rename_i hchild
    rw [if_neg hchild] at hfails
    split at hfails
    · simp only [hundo]
    · split at hfails
      · rename_i hremoved
        simp only [if_pos hremoved, hundo]
      · exact absurd hfails (hcommit _ _)

/-- Over every run from an empty store, the chains of parents end, a task names a
parent exactly if that one is stored and lists it once while nobody else does, and a
creation that fails because its parent is missing or removed leaves the store as it
was. -/
theorem task_forest {s s' : TaskStore} {calls : List StoreCall}
    (hempty : s.inner = KeyedMap.empty) (hrun : Exec StoreStep s calls s') :
    (WellFounded fun p c => ∃ t, s'.inner.get c = some t ∧ t.parentTaskId = p ∧ p ≠ "") ∧
    (∀ p c, (∃ t, s'.inner.get c = some t ∧ t.parentTaskId = p ∧ p ≠ "") ↔
      ∃ parent, s'.inner.get p = some parent ∧ parent.childTaskIds.count c = 1 ∧
        ∀ q other, s'.inner.get q = some other → q ≠ p → c ∉ other.childTaskIds) ∧
    ∀ env id input, StoreCall.Fresh ⟨env, .create id input⟩ s' →
      (∃ parentId, (s'.create env id input).1 = .error (.parentNotFound parentId) ∨
        (s'.create env id input).1 = .error (.parentRemoved parentId)) →
      (s'.create env id input).2 = s' := by
  have hforest := forest_of_run hempty hrun
  refine ⟨?_, ?_, fun env id input => create_of_bad_parent⟩
  · refine Subrelation.wf ?_ hforest.grounded
    intro p c hparent
    exact parent_links_iff.mpr hparent
  · intro p c
    rw [← parent_links_iff, hforest.parent_iff]
    simp [links, nodeOf]

/-- Two levels of tasks. -/
def familyCalls : List StoreCall :=
  [callAt 0 (.create "a" (plainInput "worker" "owner" "")),
   callAt 1 (.create "b" (plainInput "worker" "owner" "a")),
   callAt 2 (.create "c" (plainInput "worker" "owner" " a "))]

/-- The theorem at two children of one task, and at a creation under a task that does
not exist. -/
theorem family_forest :
    (∃ parent, (applyAll inMemory familyCalls).inner.get "a" = some parent ∧
      parent.childTaskIds.count "c" = 1 ∧
      ∀ q other, (applyAll inMemory familyCalls).inner.get q = some other → q ≠ "a" →
        "c" ∉ other.childTaskIds) ∧
    ((applyAll inMemory familyCalls).create ⟨Unicode.ascii, 3, .done⟩ "d"
      (plainInput "worker" "owner" "z")).2 = applyAll inMemory familyCalls := by
  have hrun : Exec StoreStep inMemory familyCalls _ :=
    exec_applyAll (s := inMemory) (by decide +kernel)
  obtain ⟨_, hlinks, hundo⟩ := task_forest rfl hrun
  constructor
  · exact (hlinks "a" "c").mp
      ⟨_, (Option.some_get (by decide +kernel)).symm, by decide +kernel, by decide⟩
  · exact hundo _ _ _ (by decide +kernel) ⟨"z", Or.inl (by decide +kernel)⟩

end Ax.Daemon
