import Ax.Daemon.TaskStore.Links

/-!
# Which rollups are current

The store recomputes a rollup only when it refreshes the parent, so between two
refreshes some rollups lag behind the child records.  This file tracks, for any
part of the rollup (a `RollupView`), which parents may be out of date: a change
of a child makes its parent dirty and a refresh cleans it, but a refresh may
itself change the parent as somebody's child.

Main results:

- Theorem `CurrentExcept.refresh`: a refresh cleans its parent.
- Theorem `CurrentExcept.recoverAll`: a recovery cleans every parent it made dirty.
-/

namespace Ax.Daemon

open TaskStore

/-- A part of the rollup, together with the part of the child records that it
is computed from. -/
structure RollupView (β γ : Type) where
  observe : TaskRollup → β
  ofChild : Task → γ
  determined : ∀ (p : Task) (m m' : TaskMap),
    (childRecords m p).map ofChild = (childRecords m' p).map ofChild →
      (summarizeTaskRollup p m).map observe = (summarizeTaskRollup p m').map observe

lemma summarizeTaskRollup_congr {p p' : Task} (m : TaskMap)
    (hchildren : p'.childTaskIds = p.childTaskIds) (hstatus : p'.status = p.status) :
    summarizeTaskRollup p' m = summarizeTaskRollup p m := by
  have hempty : emptyRollup p' = emptyRollup p := by
    unfold emptyRollup
    rw [hchildren]
  have htext : ∀ r, formatRollupSummary p' r = formatRollupSummary p r := by
    intro r
    unfold formatRollupSummary
    rw [hstatus]
  have hconclude : ∀ r, concludeRollup p' r = concludeRollup p r := by
    intro r
    unfold concludeRollup
    rw [hstatus]
    dsimp only
    rw [htext]
  unfold summarizeTaskRollup
  rw [hchildren, hempty, hconclude]

variable {m : TaskMap} {x y t : Task} {isSessionLive : String → Bool} {c : StoreCall}
  {exempt : String → Prop}

lemma childRecords_put {γ : Type} (f : Task → γ) {y₀ : Task} (hget : m.get y.id = some y₀)
    (hsame : y.id ∈ x.childTaskIds → f y = f y₀) :
    (childRecords (m.put y) x).map f = (childRecords m x).map f := by
  simp only [childRecords, List.map_filterMap]
  apply List.filterMap_congr
  intro childId hmem
  rw [KeyedMap.get_put]
  split
  · rename_i heq
    subst heq
    rw [hget, Option.map_some, Option.map_some, hsame hmem]
  · rfl

lemma childRecords_put_of_notMem (h : y.id ∉ x.childTaskIds) :
    childRecords (m.put y) x = childRecords m x := by
  apply List.filterMap_congr
  intro childId hmem
  rw [KeyedMap.get_put_of_ne]
  rintro rfl
  exact h hmem

/-- The records of `m'` are versions of those of `m` under the same parents,
and none was removed. -/
def SamePlaces (m m' : TaskMap) : Prop :=
  ∀ id p', m'.get id = some p' → ∃ p, m.get id = some p ∧
    p'.parentTaskId = p.parentTaskId ∧ p'.removedAt = p.removedAt

lemma SamePlaces.put {m' : TaskMap} (h : SamePlaces m m') (hget : m'.get y.id = some x)
    (hparent : y.parentTaskId = x.parentTaskId) (hremoved : y.removedAt = x.removedAt) :
    SamePlaces m (m'.put y) := by
  intro id p' hp'
  rw [KeyedMap.get_put] at hp'
  split at hp'
  · rename_i hid
    subst hid
    obtain rfl : y = p' := Option.some.inj hp'
    obtain ⟨p, hp, hparent₀, hremoved₀⟩ := h y.id x hget
    exact ⟨p, hp, hparent.trans hparent₀, hremoved.trans hremoved₀⟩
  · exact h id p' hp'

lemma SamePlaces.refresh (m : TaskMap) (parentId : String) (now : Timestamp) :
    SamePlaces m (refreshParentRollup m parentId now) := by
  have hrefl : SamePlaces m m := fun _ p hp => ⟨p, hp, rfl, rfl⟩
  rcases refreshParentRollup_cases m parentId now with ⟨heq, _⟩ | ⟨q, _, hq, _, heq⟩
  · rw [heq]
    exact hrefl
  · rw [heq]
    refine hrefl.put (x := q) ?_ ?_ ?_
    · rw [refreshRollup_id, KeyedMap.key_of_get hq]
      exact hq
    · rw [refreshRollup_frame]
    · rw [refreshRollup_frame]

variable {β γ : Type} (V : RollupView β γ)

def Current (m : TaskMap) (p : Task) : Prop :=
  p.rollup.map V.observe = (summarizeTaskRollup p m).map V.observe

def CurrentExcept (dirty : String → Prop) (m : TaskMap) : Prop :=
  ∀ id p, m.get id = some p → p.removedAt = none → ¬ dirty id → Current V m p

namespace CurrentExcept

variable {V} {m : TaskMap} {dirty dirty' : String → Prop}

lemma mono (h : CurrentExcept V dirty m) (hdirty : ∀ id, dirty id → dirty' id) :
    CurrentExcept V dirty' m :=
  fun id p hget hlive hclean => h id p hget hlive fun hd => hclean (hdirty id hd)

variable {y : Task}

lemma put (h : CurrentExcept V dirty m) {y₀ : Task} (hget : m.get y.id = some y₀)
    (hother : ∀ id x, m.get id = some x → id ≠ y.id → ¬ dirty' id →
      ¬ dirty id ∧ (y.id ∈ x.childTaskIds → V.ofChild y = V.ofChild y₀))
    (hself : y.removedAt = none → ¬ dirty' y.id → Current V (m.put y) y) :
    CurrentExcept V dirty' (m.put y) := by
  intro id x hx hlive hclean
  rw [KeyedMap.get_put] at hx
  split at hx
  · rename_i hid
    subst hid
    obtain rfl : y = x := Option.some.inj hx
    exact hself hlive hclean
  · rename_i hid
    obtain ⟨hclean₀, hsame⟩ := hother id x hx hid hclean
    have hcurrent := h id x hx hlive hclean₀
    rw [Current] at hcurrent ⊢
    rw [hcurrent]
    exact V.determined x m (m.put y) (childRecords_put V.ofChild hget hsame).symm

lemma unseen (hlinked : Linked m) {y₀ : Task} (hget : m.get y.id = some y₀)
    (hchild : V.ofChild y = V.ofChild y₀ ∨ (y₀.parentTaskId ≠ "" → dirty' y₀.parentTaskId))
    {id : String} {x : Task} (hx : m.get id = some x) (hclean : ¬ dirty' id)
    (hmem : y.id ∈ x.childTaskIds) : V.ofChild y = V.ofChild y₀ := by
  rcases hchild with hsame | hdirty
  · exact hsame
  · obtain ⟨child, hstored, hlink, hnamed⟩ := hlinked.listed hx hmem
    obtain rfl : y₀ = child := Option.some.inj (hget.symm.trans hstored)
    rw [hlink, KeyedMap.key_of_get hx] at hdirty
    rw [KeyedMap.key_of_get hx] at hnamed
    exact absurd (hdirty hnamed) hclean

section

variable (h : CurrentExcept V dirty m)
include h

lemma touch (hlinked : Linked m) {c : StoreCall} {t t' : Task} (hget : m.get t.id = some t)
    (htouch : Touch c t t')
    (hown : (summarizeTaskRollup t' m).map V.observe = (summarizeTaskRollup t m).map V.observe)
    (hdirty : ∀ id, dirty id → dirty' id)
    (hchild : V.ofChild t' = V.ofChild t ∨ (t.parentTaskId ≠ "" → dirty' t.parentTaskId)) :
    CurrentExcept V dirty' (m.put t') := by
  have hget' : m.get t'.id = some t := htouch.id_eq ▸ hget
  refine h.put hget' ?_ ?_
  · intro id x hx _ hclean
    exact ⟨fun hd => hclean (hdirty id hd), unseen hlinked hget' hchild hx hclean⟩
  · intro _ hclean
    have hcurrent := h t'.id t hget' htouch.not_removed fun hd => hclean (hdirty _ hd)
    have hsame : t'.id ∈ t'.childTaskIds → V.ofChild t' = V.ofChild t := by
      rw [htouch.childTaskIds_eq]
      exact unseen hlinked hget' hchild hget' hclean
    rw [Current] at hcurrent ⊢
    rw [htouch.rollup_eq, hcurrent, ← hown]
    exact V.determined t' m (m.put t') (childRecords_put V.ofChild hget' hsame).symm

/-- A refresh cleans its parent; it may make the parent's own parent dirty. -/
theorem refresh (hlinked : Linked m) (parentId : String) (now : Timestamp)
    (hdirty : ∀ id, dirty id → dirty' id ∨ (id = Text.trim parentId ∧ id ≠ ""))
    (hchild : ∀ p, Text.trim parentId ≠ "" → m.get (Text.trim parentId) = some p →
      p.removedAt = none → V.ofChild (refreshRollup m p now) = V.ofChild p ∨
      (p.parentTaskId ≠ "" → dirty' p.parentTaskId)) :
    CurrentExcept V dirty' (refreshParentRollup m parentId now) := by
  rcases refreshParentRollup_cases m parentId now with
    ⟨hsame, hnone⟩ | ⟨parent, hnonempty, hget, hlive, hstored⟩
  · -- Nothing is refreshed, and nothing that could be refreshed was dirty.
    rw [hsame]
    intro id p hp hlive hclean
    refine h id p hp hlive fun hd => ?_
    rcases hdirty id hd with hd' | ⟨rfl, hne⟩
    · exact hclean hd'
    · exact hnone hne p hp hlive
  · have hid : parent.id = Text.trim parentId := KeyedMap.key_of_get hget
    have hget' : m.get (refreshRollup m parent now).id = some parent := by
      rw [refreshRollup_id, hid]
      exact hget
    have hunseen : ∀ {id x}, m.get id = some x → ¬ dirty' id →
        (refreshRollup m parent now).id ∈ x.childTaskIds →
        V.ofChild (refreshRollup m parent now) = V.ofChild parent :=
      fun hx hclean => unseen hlinked hget' (hchild parent hnonempty hget hlive) hx hclean
    have hchildren : (refreshRollup m parent now).childTaskIds = parent.childTaskIds := by
      rw [refreshRollup_frame]
    rw [hstored]
    refine h.put hget' ?_ ?_
    · intro id x hx hne hclean
      refine ⟨fun hd => ?_, hunseen hx hclean⟩
      rcases hdirty id hd with hd' | ⟨heq, _⟩
      · exact hclean hd'
      · rw [refreshRollup_id, hid] at hne
        exact hne heq
    · intro _ hclean
      have hrollup : (refreshRollup m parent now).rollup =
          summarizeTaskRollup (refreshRollup m parent now) m := by
        rw [summarizeTaskRollup_congr m hchildren (refreshRollup_status m parent now),
          refreshRollup_frame]
      rw [Current, hrollup]
      refine V.determined _ m _ (childRecords_put V.ofChild hget' ?_).symm
      rw [hchildren]
      exact hunseen hget' hclean

lemma put_fresh (hlinked : Linked m) (hfresh : m.get y.id = none)
    (hchildren : y.childTaskIds = []) (hrollup : y.rollup = none) :
    CurrentExcept V dirty (m.put y) := by
  intro id x hx hlive hclean
  rw [KeyedMap.get_put] at hx
  split at hx
  · obtain rfl : y = x := Option.some.inj hx
    simp [Current, hrollup, summarizeTaskRollup, hchildren]
  · have hcurrent := h id x hx hlive hclean
    have hnotMem : y.id ∉ x.childTaskIds := by
      intro hmem
      obtain ⟨child, hchild, _⟩ := hlinked.listed hx hmem
      rw [hfresh] at hchild
      cases hchild
    rw [Current] at hcurrent ⊢
    rw [hcurrent]
    exact V.determined x m (m.put y) (by rw [childRecords_put_of_notMem hnotMem])

lemma adopt (hlinked : Linked m) {parent : Task} (hget : m.get parent.id = some parent)
    (now : Timestamp) (childId : String) (hdirty : ∀ id, dirty id → dirty' id)
    (hparent : dirty' parent.id)
    (hchild : V.ofChild (adoptChild now parent childId) = V.ofChild parent ∨
      (parent.parentTaskId ≠ "" → dirty' parent.parentTaskId)) :
    CurrentExcept V dirty' (m.put (adoptChild now parent childId)) := by
  have hget' : m.get (adoptChild now parent childId).id = some parent := by
    rw [adoptChild_id]
    exact hget
  refine h.put hget' ?_ ?_
  · intro id x hx _ hclean
    exact ⟨fun hd => hclean (hdirty id hd), unseen hlinked hget' hchild hx hclean⟩
  · intro _ hclean
    rw [adoptChild_id] at hclean
    exact absurd hparent hclean

end

lemma refreshAll {exempt : String → Prop} (now : Timestamp) (parents : List String)
    (h : CurrentExcept V (fun id => id ∈ parents ∨ exempt id) m) (hlinked : Linked m)
    (hnamed : ∀ parentId ∈ parents, parentId ≠ "" ∧ Text.trim parentId = parentId)
    (habove : (∀ m p, V.ofChild (refreshRollup m p now) = V.ofChild p) ∨
      ∀ parentId ∈ parents, ∀ p, m.get parentId = some p → p.removedAt = none →
        p.parentTaskId ≠ "" → exempt p.parentTaskId) :
    CurrentExcept V exempt
      (parents.foldl (fun all parentId => refreshParentRollup all parentId now) m) := by
  induction parents generalizing m with
  | nil => exact h.mono fun id hd => hd.resolve_left List.not_mem_nil
  | cons parentId rest ih =>
    obtain ⟨hne, htrim⟩ := hnamed parentId List.mem_cons_self
    refine ih (h.refresh hlinked parentId now ?_ ?_) (hlinked.refresh parentId now)
      (fun x hx => hnamed x (List.mem_cons_of_mem _ hx)) ?_
    · rintro id (hmem | hexempt)
      · rcases List.mem_cons.mp hmem with rfl | hrest
        · exact Or.inr ⟨htrim.symm, hne⟩
        · exact Or.inl (Or.inl hrest)
      · exact Or.inl (Or.inr hexempt)
    · intro p _ hp hlive
      rw [htrim] at hp
      rcases habove with hignores | habove
      · exact Or.inl (hignores m p)
      · exact Or.inr fun hp' => Or.inr (habove parentId List.mem_cons_self p hp hlive hp')
    · refine habove.imp_right fun habove x hx p hp hlive => ?_
      obtain ⟨q, hq, hparent, hremoved⟩ := SamePlaces.refresh m parentId now x p hp
      rw [hparent]
      exact habove x (List.mem_cons_of_mem _ hx) q hq (hremoved ▸ hlive)

end CurrentExcept

/-! ## Recovery -/

structure RecoverInvariant (exempt : String → Prop) (isSessionLive : String → Bool)
    (before : TaskMap) (acc : TaskMap × List String) : Prop where
  linked : Linked acc.1
  current : CurrentExcept V (fun id => id ∈ acc.2 ∨ exempt id) acc.1
  noted : ∀ parentId ∈ acc.2, parentId ≠ "" ∧ Text.trim parentId = parentId ∧
    ∃ t, before.get t.id = some t ∧ isStaleInProgress isSessionLive t = true ∧
      t.parentTaskId = parentId
  places : SamePlaces before acc.1

variable {V}

lemma RecoverInvariant.recoverOne {before : TaskMap} {acc : TaskMap × List String}
    (hop : c.op = .recoverStaleInProgress isSessionLive)
    (hreset : ∀ (m : TaskMap) (t : Task), t.status = .inProgress →
      (summarizeTaskRollup (recoverRecord c.env.unicode c.env.now t) m).map V.observe =
        (summarizeTaskRollup t m).map V.observe)
    (h : RecoverInvariant V exempt isSessionLive before acc) (hbefore : before.get t.id = some t)
    (hget : acc.1.get t.id = some t) (hstale : isStaleInProgress isSessionLive t = true) :
    RecoverInvariant V exempt isSessionLive before
      (recoverOne c.env.unicode c.env.now acc t.id) := by
  have htouch : Touch c t (recoverRecord c.env.unicode c.env.now t) :=
    Touch.recovered hop hstale
  rw [recoverOne_of_get hget]
  refine ⟨h.linked.touch hget htouch, ?_, ?_, ?_⟩
  · refine h.current.touch h.linked hget htouch (hreset _ t (running_of_stale hstale)) ?_
      (Or.inr ?_)
    · rintro id (hmem | hexempt)
      · refine Or.inl ?_
        dsimp only
        split
        · exact hmem
        · exact List.mem_append_left _ hmem
      · exact Or.inr hexempt
    · intro hne
      refine Or.inl ?_
      dsimp only
      rw [if_neg hne]
      exact List.mem_append_right _ List.mem_cons_self
  · intro parentId hmem
    dsimp only at hmem
    split at hmem
    · exact h.noted parentId hmem
    · rename_i hne
      rcases List.mem_append.mp hmem with hold | hnew
      · exact h.noted parentId hold
      · obtain rfl := List.mem_singleton.mp hnew
        exact ⟨hne, h.linked.trimmed hget, t, hbefore, hstale, rfl⟩
  · refine h.places.put (x := t) ?_ htouch.parentTaskId_eq (recoverRecord_removedAt _ _ t)
    rw [htouch.id_eq]
    exact hget

/-- A recovery cleans every parent it made dirty.  Unless refreshes cannot be
seen in the view, the parents of the refreshed parents have to count as dirty. -/
theorem CurrentExcept.recoverAll (hop : c.op = .recoverStaleInProgress isSessionLive)
    (hreset : ∀ (m : TaskMap) (t : Task), t.status = .inProgress →
      (summarizeTaskRollup (recoverRecord c.env.unicode c.env.now t) m).map V.observe =
        (summarizeTaskRollup t m).map V.observe) (h : CurrentExcept V exempt m) (hlinked : Linked m)
    (habove : (∀ m p, V.ofChild (refreshRollup m p c.env.now) = V.ofChild p) ∨
      ∀ t, m.get t.id = some t → isStaleInProgress isSessionLive t = true →
        t.parentTaskId ≠ "" → ∀ p, m.get t.parentTaskId = some p → p.removedAt = none →
          p.parentTaskId ≠ "" → exempt p.parentTaskId) :
    CurrentExcept V exempt
      (recoverAll c.env.unicode c.env.now (recoverCandidates isSessionLive m) m) := by
  have hstart : RecoverInvariant V exempt isSessionLive m (m, []) :=
    { linked := hlinked
      current := h.mono fun _ hexempt => Or.inr hexempt
      noted := fun _ hmem => absurd hmem List.not_mem_nil
      places := fun _ p hp => ⟨p, hp, rfl, rfl⟩ }
  have hreset := recoverCandidates_induction
    (P := RecoverInvariant V exempt isSessionLive m) (u := c.env.unicode)
    (fun acc t hacc hbefore hget hstale => hacc.recoverOne hop hreset hbefore hget hstale) hstart
  have hmem : ∀ {parentId : String} {parents : List String},
      parentId ∈ (parents.insertionSort (· ≤ ·)).dedup ↔ parentId ∈ parents := by
    intro parentId parents
    rw [List.mem_dedup, List.mem_insertionSort]
  refine CurrentExcept.refreshAll c.env.now _ ?_ hreset.linked ?_ ?_
  · exact hreset.current.mono fun id hd => hd.imp_left hmem.mpr
  · intro parentId hparent
    obtain ⟨hne, htrim, _⟩ := hreset.noted parentId (hmem.mp hparent)
    exact ⟨hne, htrim⟩
  · refine habove.imp_right fun habove parentId hparent p hp hlive => ?_
    obtain ⟨hne, _, t, ht, hstale, rfl⟩ := hreset.noted parentId (hmem.mp hparent)
    obtain ⟨q, hq, hplace, hremoved⟩ := hreset.places _ p hp
    rw [hplace]
    exact habove t ht hstale hne q hq (hremoved ▸ hlive)

/-! ## Effects of a call -/

def RefreshedBy (c : StoreCall) (m : TaskMap) (p : Task) : Prop :=
  (∃ t t', m.get t.id = some t ∧ Touch c t t' ∧ c.isQuiet = false ∧
    t.parentTaskId ≠ "" ∧ m.get t.parentTaskId = some p) ∨
  ∃ id input, c.op = .create id input ∧ m.get (Text.trim input.parentTaskId) = some p

def IgnoresRefresh (V : RollupView β γ) : Prop :=
  (∀ m p now, V.ofChild (refreshRollup m p now) = V.ofChild p) ∧
    ∀ now p childId, V.ofChild (adoptChild now p childId) = V.ofChild p

lemma CurrentExcept.storeAndRefresh (h : CurrentExcept V exempt m) (hlinked : Linked m)
    {t' : Task} (hget : m.get t.id = some t) (htouch : Touch c t t') (now : Timestamp)
    (hown : (summarizeTaskRollup t' m).map V.observe = (summarizeTaskRollup t m).map V.observe)
    (habove : IgnoresRefresh V ∨ (t.parentTaskId ≠ "" → ∀ p, m.get t.parentTaskId = some p →
      p.removedAt = none → p.parentTaskId ≠ "" → exempt p.parentTaskId)) :
    CurrentExcept V exempt (storeAndRefresh m t' now) := by
  have htrim : Text.trim t'.parentTaskId = t.parentTaskId := by
    rw [htouch.parentTaskId_eq]
    exact hlinked.trimmed hget
  have hdirty : CurrentExcept V
      (fun id => exempt id ∨ (id = t.parentTaskId ∧ id ≠ "")) (m.put t') :=
    h.touch hlinked hget htouch hown (fun _ hexempt => Or.inl hexempt)
      (Or.inr fun hne => Or.inr ⟨rfl, hne⟩)
  refine hdirty.refresh (hlinked.touch hget htouch) t'.parentTaskId now ?_ ?_
  · intro id hd
    rw [htrim]
    exact hd
  · intro p hnamed hp hlive
    rw [htrim] at hp hnamed
    refine habove.imp (fun hignores => hignores.1 _ p now) fun habove hne => ?_
    -- The refreshed parent is the one found before, or the rewritten task itself.
    rw [KeyedMap.get_put] at hp
    split at hp
    · rename_i hself
      obtain rfl := Option.some.inj hp
      rw [htouch.id_eq] at hself
      rw [htouch.parentTaskId_eq] at hne ⊢
      exact habove hnamed t (hself ▸ hget) htouch.not_removed hne
    · exact habove hnamed p hp hlive hne

lemma CurrentExcept.effect {m' : TaskMap} (heffect : Effect c m m') (hlinked : Linked m)
    (h : CurrentExcept V exempt m) (hown : ∀ t t', m.get t.id = some t → Touch c t t' →
      (summarizeTaskRollup t' m).map V.observe = (summarizeTaskRollup t m).map V.observe)
    (hreset : ∀ (m : TaskMap) (t : Task), t.status = .inProgress →
      (summarizeTaskRollup (recoverRecord c.env.unicode c.env.now t) m).map V.observe =
        (summarizeTaskRollup t m).map V.observe)
    (hquiet : c.isQuiet = true → ∀ t t', m.get t.id = some t → Touch c t t' →
      V.ofChild t' = V.ofChild t ∨ (t.parentTaskId ≠ "" → exempt t.parentTaskId))
    (habove : IgnoresRefresh V ∨ ∀ p, RefreshedBy c m p → p.removedAt = none →
      p.parentTaskId ≠ "" → exempt p.parentTaskId) : CurrentExcept V exempt m' := by
  cases heffect with
  | unchanged => exact h
  | rewritten hget htouch hloud =>
    refine h.storeAndRefresh hlinked hget htouch c.env.now (hown _ _ hget htouch) ?_
    exact habove.imp_right fun habove hnamed p hp =>
      habove p (Or.inl ⟨_, _, hget, htouch, hloud, hnamed, hp⟩)
  | stamped hget htouch hq =>
    exact h.touch hlinked hget htouch (hown _ _ hget htouch) (fun _ hexempt => hexempt)
      (hquiet hq _ _ hget htouch)
  | createdRoot _ hfresh => exact h.put_fresh hlinked hfresh rfl rfl
  | @createdChild id input parent hop hfresh hchild hparent hlive =>
    have hid : parent.id = Text.trim input.parentTaskId := KeyedMap.key_of_get hparent
    have hne : Text.trim input.parentTaskId ≠ id := by
      rintro heq
      rw [heq, hfresh] at hparent
      cases hparent
    have hget : (m.put (newTask c.env.now id input)).get parent.id = some parent := by
      rw [hid, KeyedMap.get_put_of_ne _ hne]
      exact hparent
    have hlinked₁ : Linked (m.put (newTask c.env.now id input)) :=
      hlinked.put_fresh hfresh rfl (fun _ => ⟨parent, hparent⟩) (Text.trim_trim _)
    have hadopt : MapStep c m (m.put (newTask c.env.now id input)) _ :=
      MapStep.adopt hget hlive (KeyedMap.get_put_self m (newTask c.env.now id input))
        hid.symm (hid ▸ hchild)
    have habove' : IgnoresRefresh V ∨ (parent.parentTaskId ≠ "" → exempt parent.parentTaskId) :=
      habove.imp_right fun habove => habove parent (Or.inr ⟨id, input, hop, hparent⟩) hlive
    have hdirty : CurrentExcept V (fun x => exempt x ∨ x = parent.id)
        ((m.put (newTask c.env.now id input)).put (adoptChild c.env.now parent id)) := by
      refine (h.put_fresh hlinked hfresh rfl rfl).adopt hlinked₁ hget c.env.now id
        (fun _ hexempt => Or.inl hexempt) (Or.inr rfl) ?_
      exact habove'.imp (fun hignores => hignores.2 _ parent id)
        fun hexempt hne => Or.inl (hexempt hne)
    refine hdirty.refresh (hlinked₁.mapStep hadopt) _ c.env.now ?_ ?_
    · intro x hd
      rw [Text.trim_trim, ← hid]
      exact hd.imp_right fun heq => ⟨heq, heq ▸ hid ▸ hchild⟩
    · intro p _ hp _
      refine habove'.imp (fun hignores => hignores.1 _ p c.env.now) fun hexempt => ?_
      have hp' : adoptChild c.env.now parent id = p := by
        rw [Text.trim_trim, ← hid, ← adoptChild_id c.env.now parent id, KeyedMap.get_put_self] at hp
        exact Option.some.inj hp
      have hplace : p.parentTaskId = parent.parentTaskId := by
        rw [← hp']
        unfold adoptChild
        split <;> rfl
      rw [hplace]
      exact hexempt
  | @recovered isSessionLive hop =>
    refine CurrentExcept.recoverAll hop hreset h hlinked ?_
    refine habove.imp (fun hignores m p => hignores.1 m p c.env.now)
      fun habove t ht hstale hnamed p hp =>
        habove p (Or.inl ⟨t, _, ht, Touch.recovered hop hstale, ?_, hnamed, hp⟩)
    simp [StoreCall.isQuiet, hop]

end Ax.Daemon
