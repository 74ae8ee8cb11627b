import Mathlib.Data.List.Nodup

/-!
# Forests of parent and child links

Nodes under keys of any type name a parent and list children.  The links form a
forest when every chain of parents ends, and when a node names another as its
parent exactly if that one lists it.

Main results:

- Theorem `Forest.parent_iff`: a named parent lists its child exactly once, and
  nobody else lists it.
- Theorem `Forest.add`: a fresh node under no parent, or under an existing one
  that lists it from then on, keeps a forest.
-/

namespace Ax

variable {κ : Type}

structure Node (κ : Type) where
  parent : Option κ
  children : List κ

abbrev Links (κ : Type) := κ → Option (Node κ)

namespace Links

/-- The node `c` names `p` as its parent. -/
def Parent (links : Links κ) (p c : κ) : Prop :=
  ∃ n, links c = some n ∧ n.parent = some p

/-- Add the childless node `x` and list it in its parent. -/
def add [DecidableEq κ] (links : Links κ) (parent : Option κ) (x : κ) : Links κ := fun k =>
  if k = x then some ⟨parent, []⟩
  else if parent = some k then
    (links k).map fun n => { n with children := n.children ++ [x] }
  else links k

end Links

structure Forest (links : Links κ) : Prop where
  grounded : WellFounded links.Parent
  listed : ∀ {p c}, links.Parent p c → ∃ n, links p = some n ∧ c ∈ n.children
  named : ∀ {p c n}, links p = some n → c ∈ n.children → links.Parent p c
  once : ∀ {p n}, links p = some n → n.children.Nodup

lemma wellFounded_of_leaf {R R' : κ → κ → Prop} {x : κ} (h : WellFounded R)
    (hold : ∀ p c, c ≠ x → R' p c → R p c) (hleaf : ∀ c, ¬R' x c) : WellFounded R' := by
  have hacc : ∀ c, c ≠ x → Acc R' c := by
    intro c
    induction c using h.induction with
    | h c ih =>
      intro hne
      refine Acc.intro c fun p hp => ih p (hold p c hne hp) ?_
      rintro rfl
      exact hleaf c hp
  refine ⟨fun c => Acc.intro c fun p hp => hacc p ?_⟩
  rintro rfl
  exact hleaf c hp

namespace Forest

variable {links : Links κ}

lemma empty : Forest (fun _ => none : Links κ) where
  grounded := ⟨fun c => Acc.intro c fun p hp => by
    obtain ⟨n, hn, _⟩ := hp
    cases hn⟩
  listed := by
    rintro p c ⟨n, hn, _⟩
    cases hn
  named hn := by cases hn
  once hn := by cases hn

/-- The parent of a node is the one that lists it, exactly once, while nobody else
does. -/
theorem parent_iff [DecidableEq κ] (h : Forest links) {p c : κ} :
    links.Parent p c ↔ ∃ n, links p = some n ∧ n.children.count c = 1 ∧
      ∀ q n', links q = some n' → q ≠ p → c ∉ n'.children := by
  constructor
  · intro hparent
    obtain ⟨n, hn, hmem⟩ := h.listed hparent
    refine ⟨n, hn, List.count_eq_one_of_mem (h.once hn) hmem, ?_⟩
    intro q n' hn' hne hmem'
    obtain ⟨x, hx, hp⟩ := hparent
    obtain ⟨x', hx', hq⟩ := h.named hn' hmem'
    obtain rfl : x = x' := Option.some.inj (hx.symm.trans hx')
    exact hne (Option.some.inj (hq.symm.trans hp))
  · rintro ⟨n, hn, hcount, _⟩
    exact h.named hn (List.count_pos_iff.mp (by omega))

lemma not_parent_of_none (h : Forest links) {x : κ} (hfresh : links x = none) (c : κ) :
    ¬links.Parent x c := by
  intro hparent
  obtain ⟨n, hn, _⟩ := h.listed hparent
  rw [hfresh] at hn
  cases hn

section Add

variable [DecidableEq κ] {parent : Option κ} {x : κ}

lemma parent_add_iff {p c : κ} :
    (links.add parent x).Parent p c ↔
      (c = x ∧ parent = some p) ∨ (c ≠ x ∧ links.Parent p c) := by
  unfold Links.Parent Links.add
  by_cases hc : c = x
  · simp [hc]
  · by_cases hlists : parent = some c
    · cases links c <;> simp [hc, hlists]
    · simp [hc, hlists]

lemma mem_children_add {k c : κ} {n : Node κ} (hn : links.add parent x k = some n)
    (hmem : c ∈ n.children) :
    (c = x ∧ parent = some k) ∨ ∃ n', links k = some n' ∧ c ∈ n'.children := by
  unfold Links.add at hn
  split_ifs at hn with hk hlists
  · obtain rfl := Option.some.inj hn
    cases hmem
  · obtain ⟨n', hn', rfl⟩ := Option.map_eq_some_iff.mp hn
    rcases List.mem_append.mp hmem with hold | hnew
    · exact Or.inr ⟨n', hn', hold⟩
    · exact Or.inl ⟨List.mem_singleton.mp hnew, hlists⟩
  · exact Or.inr ⟨n, hn, hmem⟩

/-- A fresh node under an existing parent, or under none, keeps a forest. -/
theorem add (h : Forest links) (hfresh : links x = none)
    (hparent : ∀ p, parent = some p → (links p).isSome = true) : Forest (links.add parent x) := by
  have hne : ∀ {p : κ}, (links p).isSome = true → p ≠ x := by
    rintro p hp rfl
    rw [hfresh] at hp
    cases hp
  have hunlisted : ∀ {p n}, links p = some n → x ∉ n.children := by
    intro p n hn hmem
    obtain ⟨n', hn', _⟩ := h.named hn hmem
    rw [hfresh] at hn'
    cases hn'
  constructor
  · refine wellFounded_of_leaf (x := x) h.grounded ?_ ?_
    · intro p c hc hp
      rcases parent_add_iff.mp hp with ⟨heq, _⟩ | ⟨_, hold⟩
      · exact absurd heq hc
      · exact hold
    · intro c hp
      rcases parent_add_iff.mp hp with ⟨_, hself⟩ | ⟨_, hold⟩
      · exact hne (hparent x hself) rfl
      · exact h.not_parent_of_none hfresh c hold
  · intro p c hp
    rcases parent_add_iff.mp hp with ⟨rfl, hlists⟩ | ⟨_, hold⟩
    · obtain ⟨n, hn⟩ := Option.isSome_iff_exists.mp (hparent p hlists)
      refine ⟨{ n with children := n.children ++ [c] }, ?_, by simp⟩
      simp [Links.add, hne (hparent p hlists), hlists, hn]
    · obtain ⟨n, hn, hmem⟩ := h.listed hold
      have hp' : p ≠ x := hne (by rw [hn]; rfl)
      by_cases hlists : parent = some p
      · refine ⟨{ n with children := n.children ++ [x] }, ?_, List.mem_append_left _ hmem⟩
        simp [Links.add, hp', hlists, hn]
      · exact ⟨n, by simp [Links.add, hp', hlists, hn], hmem⟩
  · intro k c n hn hmem
    rcases mem_children_add hn hmem with ⟨rfl, hlists⟩ | ⟨n', hn', hold⟩
    · exact parent_add_iff.mpr (Or.inl ⟨rfl, hlists⟩)
    · refine parent_add_iff.mpr (Or.inr ⟨?_, h.named hn' hold⟩)
      rintro rfl
      exact hunlisted hn' hold
  · intro k n hn
    unfold Links.add at hn
    split_ifs at hn with hk hlists
    · obtain rfl := Option.some.inj hn
      exact List.nodup_nil
    · obtain ⟨n', hn', rfl⟩ := Option.map_eq_some_iff.mp hn
      simpa using (h.once hn').concat (hunlisted hn')
    · exact h.once hn

end Add

end Forest

end Ax
