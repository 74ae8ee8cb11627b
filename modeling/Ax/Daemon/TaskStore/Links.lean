import Ax.Daemon.TaskStore.Runs

/-!
# Parent and child links

A task names its parent and the parent lists its children.  The rollups only
make sense because the two agree: whoever lists a task is the parent that this
task names, so a change of the task concerns exactly one rollup.

Main results:

- Theorem `Linked.mapStep`: every elementary change keeps the links intact.
- Theorem `linked_of_run`: the links of a store that started empty are intact.
-/

namespace Ax.Daemon

open TaskStore

structure Linked (m : TaskMap) : Prop where
  listed : ∀ {id p childId}, m.get id = some p → childId ∈ p.childTaskIds →
    ∃ child, m.get childId = some child ∧ child.parentTaskId = p.id ∧ p.id ≠ ""
  named : ∀ {id t}, m.get id = some t → t.parentTaskId ≠ "" →
    ∃ p, m.get t.parentTaskId = some p
  trimmed : ∀ {id t}, m.get id = some t → Text.trim t.parentTaskId = t.parentTaskId

namespace Linked

variable {m : TaskMap}

lemma empty : Linked KeyedMap.empty where
  listed h := by simp at h
  named h := by simp at h
  trimmed h := by simp at h

variable {t : Task} {c : StoreCall}

lemma put (h : Linked m) {t' : Task} (hget : m.get t'.id = some t)
    (hparent : t'.parentTaskId = t.parentTaskId)
    (hchildren : ∀ childId ∈ t'.childTaskIds, childId ∈ t.childTaskIds ∨
      ∃ child, m.get childId = some child ∧ child.parentTaskId = t'.id ∧ t'.id ≠ "") :
    Linked (m.put t') := by
  have hid := KeyedMap.key_of_get hget
  -- A record that is looked up afterwards has the parent of the one before.
  have hafter : ∀ childId child, m.get childId = some child →
      ∃ child', (m.put t').get childId = some child' ∧
        child'.parentTaskId = child.parentTaskId := by
    intro childId child hchild
    rw [KeyedMap.get_put]
    split
    · rename_i heq
      rw [heq, hget] at hchild
      exact ⟨t', rfl, Option.some.inj hchild ▸ hparent⟩
    · exact ⟨child, hchild, rfl⟩
  have hlisted : ∀ {p childId}, (∃ child, m.get childId = some child ∧
      child.parentTaskId = p ∧ p ≠ "") →
      ∃ child, (m.put t').get childId = some child ∧ child.parentTaskId = p ∧ p ≠ "" := by
    rintro p childId ⟨child, hchild, hlink, hnamed⟩
    obtain ⟨child', hchild', heq⟩ := hafter childId child hchild
    exact ⟨child', hchild', heq.trans hlink, hnamed⟩
  constructor
  · intro id p childId hp hmem
    rw [KeyedMap.get_put] at hp
    split at hp
    · obtain rfl : t' = p := Option.some.inj hp
      rcases hchildren childId hmem with hold | hnew
      · exact hlisted (hid ▸ h.listed hget hold)
      · exact hlisted hnew
    · exact hlisted (h.listed hp hmem)
  · intro id x hx hne
    have hbefore : ∃ p, m.get x.parentTaskId = some p := by
      rw [KeyedMap.get_put] at hx
      split at hx
      · obtain rfl : t' = x := Option.some.inj hx
        rw [hparent] at hne ⊢
        exact h.named hget hne
      · exact h.named hx hne
    obtain ⟨p, hp⟩ := hbefore
    obtain ⟨p', hp', _⟩ := hafter x.parentTaskId p hp
    exact ⟨p', hp'⟩
  · intro id x hx
    rw [KeyedMap.get_put] at hx
    split at hx
    · obtain rfl : t' = x := Option.some.inj hx
      rw [hparent]
      exact h.trimmed hget
    · exact h.trimmed hx

lemma put_fresh (h : Linked m) (hfresh : m.get t.id = none) (hchildren : t.childTaskIds = [])
    (hparent : t.parentTaskId ≠ "" → ∃ p, m.get t.parentTaskId = some p)
    (htrimmed : Text.trim t.parentTaskId = t.parentTaskId) : Linked (m.put t) := by
  have hkept : ∀ id, (∃ p, m.get id = some p) → ∃ p, (m.put t).get id = some p := by
    rintro id ⟨p, hp⟩
    have hne : id ≠ t.id := by
      rintro rfl
      rw [hfresh] at hp
      cases hp
    exact ⟨p, (KeyedMap.get_put_of_ne m hne).trans hp⟩
  constructor
  · intro id p childId hp hmem
    rw [KeyedMap.get_put] at hp
    split at hp
    · obtain rfl : t = p := Option.some.inj hp
      rw [hchildren] at hmem
      cases hmem
    · obtain ⟨child, hchild, hlink⟩ := h.listed hp hmem
      have hne : childId ≠ t.id := by
        rintro rfl
        rw [hfresh] at hchild
        cases hchild
      exact ⟨child, (KeyedMap.get_put_of_ne m hne).trans hchild, hlink⟩
  · intro id x hx hne
    refine hkept _ ?_
    rw [KeyedMap.get_put] at hx
    split at hx
    · obtain rfl : t = x := Option.some.inj hx
      exact hparent hne
    · exact h.named hx hne
  · intro id x hx
    rw [KeyedMap.get_put] at hx
    split at hx
    · obtain rfl : t = x := Option.some.inj hx
      exact htrimmed
    · exact h.trimmed hx

lemma touch (h : Linked m) {t' : Task} (hget : m.get t.id = some t) (htouch : Touch c t t') :
    Linked (m.put t') := by
  refine h.put (htouch.id_eq ▸ hget) htouch.parentTaskId_eq ?_
  intro childId hmem
  rw [htouch.childTaskIds_eq] at hmem
  exact Or.inl hmem

lemma refresh (h : Linked m) (parentId : String) (now : Timestamp) :
    Linked (refreshParentRollup m parentId now) := by
  rcases refreshParentRollup_cases m parentId now with ⟨heq, _⟩ | ⟨parent, _, hget, _, heq⟩
  · rw [heq]
    exact h
  · rw [heq]
    have hid := KeyedMap.key_of_get hget
    refine h.put (t := parent) (by rw [refreshRollup_id, hid]; exact hget) ?_ ?_
    · rw [refreshRollup_frame]
    · intro childId hmem
      rw [refreshRollup_frame] at hmem
      exact Or.inl hmem

/-- An elementary change keeps the links. -/
theorem mapStep (h : Linked m) {before m' : TaskMap} (hstep : MapStep c before m m') :
    Linked m' := by
  cases hstep with
  | touch _ hget htouch => exact h.touch hget htouch
  | refresh parentId => exact h.refresh parentId c.env.now
  | insert hfresh hparent => exact h.put_fresh hfresh rfl hparent (Text.trim_trim _)
  | @adopt parent child hget _ hchild hlink hnamed =>
    refine h.put (t := parent) (by rw [adoptChild_id]; exact hget) ?_ ?_
    · unfold adoptChild
      split <;> rfl
    · intro childId hmem
      rw [adoptChild_id]
      unfold adoptChild at hmem
      split at hmem
      · exact Or.inl hmem
      · rcases List.mem_append.mp hmem with hold | hnew
        · exact Or.inl hold
        · rw [List.mem_singleton.mp hnew]
          exact Or.inr ⟨child, hchild, hlink, hnamed⟩

lemma storeStep {s s' : TaskStore} (h : Linked s.inner) (hstep : StoreStep s c s') :
    Linked s'.inner := by
  have hchain : ∀ m', MapSteps c s.inner s.inner m' → Linked m' := by
    intro m' hsteps
    induction hsteps with
    | refl => exact h
    | tail _ hlast ih => exact ih.mapStep hlast
  obtain ⟨hfresh, rfl⟩ := hstep
  exact hchain _ (StoreCall.effect hfresh).mapSteps

lemma childRecords_ids (h : Linked m) {id : String} {p : Task} (hget : m.get id = some p) :
    (childRecords m p).map Task.id = p.childTaskIds := by
  have hall : ∀ ids : List String, (∀ childId ∈ ids, ∃ child, m.get childId = some child) →
      (ids.filterMap m.get).map Task.id = ids := by
    intro ids
    induction ids with
    | nil => intro _; rfl
    | cons childId rest ih =>
      intro hstored
      obtain ⟨child, hchild⟩ := hstored childId List.mem_cons_self
      rw [List.filterMap_cons_some hchild, List.map_cons, KeyedMap.key_of_get hchild,
        ih fun x hx => hstored x (List.mem_cons_of_mem _ hx)]
  refine hall p.childTaskIds ?_
  intro childId hmem
  obtain ⟨child, hchild, _⟩ := h.listed hget hmem
  exact ⟨child, hchild⟩

end Linked

/-- The links of a store that started empty are intact. -/
theorem linked_of_run {s s' : TaskStore} {calls : List StoreCall}
    (hempty : s.inner = KeyedMap.empty) (hrun : Exec StoreStep s calls s') : Linked s'.inner := by
  have hstart : Linked s.inner := by
    rw [hempty]
    exact Linked.empty
  exact Exec.invariant (P := fun s => Linked s.inner) (fun hstep h => h.storeStep hstep) hrun hstart

end Ax.Daemon
