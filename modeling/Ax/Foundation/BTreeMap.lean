import Mathlib.Data.List.Nodup
import Mathlib.Order.Defs.LinearOrder
import Std.Data.ExtTreeMap.Lemmas

/-!
# Ordered maps

The stores of the modelled program keep their records in ordered maps and rely
on two things only: lookups after an update, and iteration in key order.  This
file fixes `Std.ExtTreeMap` as the map, so that two maps with the same lookups
are equal, and restates the lookup lemmas with plain equality of keys.

Main results:

- Theorem `ext_get?`: maps with the same lookups are equal.
- Theorems `get?_foldl_erase`, `get?_foldl_insert` and `get?_foldl_insertIfNew`:
  lookups after several updates.
-/

namespace Ax

abbrev BTreeMap (κ : Type) (ν : Type) [Ord κ] : Type :=
  Std.ExtTreeMap κ ν compare

namespace BTreeMap

variable {κ ν μ : Type} [Ord κ] [Std.TransOrd κ] [Std.LawfulEqOrd κ] [DecidableEq κ]

/-- The stored values in key order. -/
def vals (m : BTreeMap κ ν) : List ν :=
  m.toList.map Prod.snd

omit [Std.TransOrd κ] [DecidableEq κ] in
lemma compare_ne_of_ne {k a : κ} (h : a ≠ k) : compare k a ≠ .eq := by
  intro heq
  exact h (Std.LawfulEqOrd.eq_of_compare heq).symm

lemma get?_insert (m : BTreeMap κ ν) (k a : κ) (v : ν) :
    (m.insert k v)[a]? = if a = k then some v else m[a]? := by
  rw [Std.ExtTreeMap.getElem?_insert]
  by_cases h : a = k
  · subst h
    simp
  · simp [h, compare_ne_of_ne h]

@[simp]
lemma get?_insert_self (m : BTreeMap κ ν) (k : κ) (v : ν) : (m.insert k v)[k]? = some v := by
  rw [get?_insert, if_pos rfl]

lemma get?_erase (m : BTreeMap κ ν) (k a : κ) :
    (m.erase k)[a]? = if a = k then none else m[a]? := by
  rw [Std.ExtTreeMap.getElem?_erase]
  by_cases h : a = k
  · subst h
    simp
  · simp [h, compare_ne_of_ne h]

variable {m : BTreeMap κ ν} {v : ν} {k : κ} {entries : List (κ × ν)}

omit [DecidableEq κ] in
lemma mem_vals_iff : v ∈ m.vals ↔ ∃ k : κ, m[k]? = some v := by
  simp only [vals, List.mem_map, Prod.exists, exists_eq_right]
  constructor
  · rintro ⟨k, hk⟩
    exact ⟨k, Std.ExtTreeMap.mem_toList_iff_getElem?_eq_some.mp hk⟩
  · rintro ⟨k, hk⟩
    exact ⟨k, Std.ExtTreeMap.mem_toList_iff_getElem?_eq_some.mpr hk⟩

omit [DecidableEq κ] in
/-- Maps with the same lookups are equal. -/
theorem ext_get? {m' : BTreeMap κ ν} (h : ∀ k : κ, m[k]? = m'[k]?) : m = m' :=
  Std.ExtTreeMap.ext_getElem? (fun k => h k)

lemma erase_insert_self (m : BTreeMap κ ν) (k : κ) (v : ν) :
    (m.insert k v).erase k = m.erase k := by
  refine ext_get? fun a => ?_
  rw [get?_erase, get?_erase]
  split
  · rfl
  · rw [get?_insert, if_neg ‹_›]

lemma erase_erase_self (m : BTreeMap κ ν) (k : κ) : (m.erase k).erase k = m.erase k := by
  refine ext_get? fun a => ?_
  rw [get?_erase, get?_erase]
  split <;> rfl

omit [Std.LawfulEqOrd κ] [DecidableEq κ] in
lemma exists_of_mem (h : k ∈ m) : ∃ v, m[k]? = some v :=
  Option.isSome_iff_exists.mp (Std.ExtTreeMap.mem_iff_isSome_getElem?.mp h)

omit [Std.LawfulEqOrd κ] [DecidableEq κ] in
lemma mem_of_get? {v : ν} (h : m[k]? = some v) : k ∈ m :=
  Std.ExtTreeMap.mem_iff_isSome_getElem?.mpr (Option.isSome_of_eq_some h)

omit [DecidableEq κ] in
lemma mem_of_mem_toList {entry : κ × ν} (h : entry ∈ m.toList) : entry.1 ∈ m :=
  mem_of_get? (Std.ExtTreeMap.mem_toList_iff_getElem?_eq_some.mp h)

omit [Std.LawfulEqOrd κ] [DecidableEq κ] in
lemma nodup_map_fst_toList (m : BTreeMap κ ν) : (m.toList.map Prod.fst).Nodup := by
  rw [Std.ExtTreeMap.map_fst_toList_eq_keys]
  exact Std.ExtTreeMap.nodup_keys

omit [DecidableEq κ] in
lemma mem_filter_notContains {a : BTreeMap κ μ} {b : BTreeMap κ ν} :
    (k, v) ∈ b.toList.filter (fun entry => !a.contains entry.1) ↔ b[k]? = some v ∧ k ∉ a := by
  rw [List.mem_filter, Std.ExtTreeMap.mem_toList_iff_getElem?_eq_some,
    Std.ExtTreeMap.mem_iff_contains, Bool.not_eq_true', Bool.not_eq_true]

omit [DecidableEq κ] in
lemma filter_notContains_map (m : BTreeMap κ μ) (f : κ → μ → ν) :
    ((m.map f).toList.filter fun entry => !m.contains entry.1) = [] := by
  rw [List.eq_nil_iff_forall_not_mem]
  intro entry hentry
  obtain ⟨hget, hnot⟩ := mem_filter_notContains.mp hentry
  rw [Std.ExtTreeMap.getElem?_map] at hget
  rw [Std.ExtTreeMap.mem_iff_isSome_getElem?] at hnot
  simp [Option.not_isSome_iff_eq_none.mp hnot] at hget

omit [DecidableEq κ] in
lemma mem_map_filter_notContains {a : BTreeMap κ μ} {b : BTreeMap κ ν} :
    k ∈ (b.toList.filter fun entry => !a.contains entry.1).map Prod.fst ↔ k ∈ b ∧ k ∉ a := by
  rw [List.mem_map, Std.ExtTreeMap.mem_iff_isSome_getElem?, Option.isSome_iff_exists]
  constructor
  · rintro ⟨entry, hentry, rfl⟩
    obtain ⟨hget, hnot⟩ := mem_filter_notContains.mp hentry
    exact ⟨⟨_, hget⟩, hnot⟩
  · rintro ⟨⟨v, hget⟩, hnot⟩
    exact ⟨_, mem_filter_notContains.mpr ⟨hget, hnot⟩, rfl⟩

omit [Std.LawfulEqOrd κ] [DecidableEq κ] in
lemma nodup_map_fst_filter (m : BTreeMap κ ν) (p : κ × ν → Bool) :
    ((m.toList.filter p).map Prod.fst).Nodup :=
  (nodup_map_fst_toList m).sublist (List.filter_sublist.map _)

omit [DecidableEq κ] in
lemma nodup_keys_append (a : BTreeMap κ μ) (b : BTreeMap κ ν) :
    (a.toList.map Prod.fst ++
      (b.toList.filter fun entry => !a.contains entry.1).map Prod.fst).Nodup := by
  rw [List.nodup_append]
  refine ⟨nodup_map_fst_toList a, nodup_map_fst_filter b _, ?_⟩
  rintro k hk k' hk' rfl
  rw [Std.ExtTreeMap.map_fst_toList_eq_keys, Std.ExtTreeMap.mem_keys] at hk
  exact (mem_map_filter_notContains.mp hk').2 hk

/-! ## Several updates -/

/-- Lookup after removing several keys. -/
theorem get?_foldl_erase (m : BTreeMap κ ν) (keys : List κ) (k : κ) :
    (keys.foldl (fun m key => m.erase key) m)[k]? = if k ∈ keys then none else m[k]? := by
  induction keys generalizing m with
  | nil => simp
  | cons key rest ih =>
    rw [List.foldl_cons, ih, get?_erase]
    by_cases hrest : k ∈ rest
    · simp [hrest]
    · by_cases hkey : k = key <;> simp [hrest, hkey]

lemma get?_insertIfNew (m : BTreeMap κ ν) (k a : κ) (v : ν) :
    (m.insertIfNew k v)[a]? = m[a]?.or (if a = k then some v else none) := by
  rw [Std.ExtTreeMap.getElem?_insertIfNew]
  by_cases hk : a = k
  · subst hk
    by_cases hmem : a ∈ m
    · simp [hmem]
    · simp [hmem]
  · simp [hk, compare_ne_of_ne hk]

/-- Lookup after insertions that leave taken keys alone: the first entry counts. -/
theorem get?_foldl_insertIfNew (m : BTreeMap κ ν) (entries : List (κ × ν)) (k : κ) :
    (entries.foldl (fun m entry => m.insertIfNew entry.1 entry.2) m)[k]? =
      m[k]?.or ((entries.find? fun entry => entry.1 = k).map Prod.snd) := by
  induction entries generalizing m with
  | nil => simp
  | cons entry rest ih =>
    rw [List.foldl_cons, ih, get?_insertIfNew, List.find?_cons, Option.or_assoc]
    by_cases hk : k = entry.1
    · simp [hk]
    · simp [hk, Ne.symm hk]

lemma find?_toList (m : BTreeMap κ ν) (k : κ) :
    (m.toList.find? fun entry => entry.1 = k).map Prod.snd = m[k]? := by
  cases hfind : m.toList.find? fun entry => entry.1 = k with
  | none =>
    rw [Option.map_none, eq_comm, Option.eq_none_iff_forall_ne_some]
    intro v hv
    have hmem := Std.ExtTreeMap.mem_toList_iff_getElem?_eq_some.mpr hv
    simpa using List.find?_eq_none.mp hfind _ hmem
  | some entry =>
    have hkey : entry.1 = k := by simpa using List.find?_some hfind
    have hmem := Std.ExtTreeMap.mem_toList_iff_getElem?_eq_some.mp (List.mem_of_find?_eq_some hfind)
    rw [Option.map_some, ← hkey, hmem]

omit [Ord κ] [Std.TransOrd κ] [Std.LawfulEqOrd κ] in
lemma find?_key_eq_none {α : Type} {f : α → κ} {xs : List α} (h : k ∉ xs.map f) :
    xs.find? (fun x => f x = k) = none := by
  rw [List.find?_eq_none]
  intro x hx
  simp only [decide_eq_true_eq]
  intro heq
  exact h (List.mem_map.mpr ⟨x, hx, heq⟩)

/-- Lookup after inserting entries with different keys. -/
theorem get?_foldl_insert (m : BTreeMap κ ν) (hnodup : (entries.map Prod.fst).Nodup) (k : κ) :
    (entries.foldl (fun m entry => m.insert entry.1 entry.2) m)[k]? =
      ((entries.find? fun entry => entry.1 = k).map Prod.snd).or m[k]? := by
  induction entries generalizing m with
  | nil => simp
  | cons entry rest ih =>
    rw [List.map_cons, List.nodup_cons] at hnodup
    rw [List.foldl_cons, ih _ hnodup.2, get?_insert, List.find?_cons]
    by_cases hk : k = entry.1
    · simp [hk, find?_key_eq_none hnodup.1]
    · simp [hk, Ne.symm hk]

omit [Ord κ] [Std.TransOrd κ] [Std.LawfulEqOrd κ] in
lemma find?_eq_some_iff (hnodup : (entries.map Prod.fst).Nodup) :
    (entries.find? fun entry => entry.1 = k).map Prod.snd = some v ↔ (k, v) ∈ entries := by
  constructor
  · intro h
    obtain ⟨entry, hfind, rfl⟩ := Option.map_eq_some_iff.mp h
    have hkey : entry.1 = k := by simpa using List.find?_some hfind
    exact hkey ▸ List.mem_of_find?_eq_some hfind
  · intro h
    have hsome : (entries.find? fun entry => entry.1 = k).isSome :=
      List.find?_isSome.mpr ⟨_, h, by simp⟩
    obtain ⟨entry, hfind⟩ := Option.isSome_iff_exists.mp hsome
    have hkey : entry.1 = k := by simpa using List.find?_some hfind
    have heq : entry = (k, v) :=
      List.inj_on_of_nodup_map hnodup (List.mem_of_find?_eq_some hfind) h hkey
    rw [hfind, heq, Option.map_some]

lemma get?_ofEntries (hnodup : (entries.map Prod.fst).Nodup) :
    (entries.foldl (fun m entry => m.insert entry.1 entry.2) (∅ : BTreeMap κ ν))[k]? = some v ↔
      (k, v) ∈ entries := by
  rw [get?_foldl_insert _ hnodup, Std.ExtTreeMap.getElem?_empty, Option.or_none,
    find?_eq_some_iff hnodup]

/-! ## Collecting results -/

section Collect

variable {α : Type} {key : α → κ} {val : α → Option ν} {xs : List α}

omit [Std.LawfulEqOrd κ] [DecidableEq κ] in
def collect (key : α → κ) (val : α → Option ν) (xs : List α) : BTreeMap κ ν :=
  (xs.filterMap fun x => (val x).map fun v => (key x, v)).foldl
    (fun m entry => m.insert entry.1 entry.2) ∅

omit [Ord κ] [Std.TransOrd κ] [Std.LawfulEqOrd κ] [DecidableEq κ] in
lemma map_fst_results_sublist :
    ((xs.filterMap fun x => (val x).map fun v => (key x, v)).map Prod.fst).Sublist
      (xs.map key) := by
  induction xs with
  | nil => exact List.Sublist.slnil
  | cons x xs ih =>
    rw [List.filterMap_cons]
    cases val x with
    | none => exact ih.cons _
    | some v => exact ih.cons_cons _

lemma get?_collect_eq_some (hnodup : (xs.map key).Nodup) {k : κ} {v : ν} :
    (collect key val xs)[k]? = some v ↔ ∃ x ∈ xs, key x = k ∧ val x = some v := by
  rw [collect, get?_ofEntries (hnodup.sublist map_fst_results_sublist), List.mem_filterMap]
  simp only [Option.map_eq_some_iff, Prod.mk.injEq]
  constructor
  · rintro ⟨x, hx, v, hv, rfl, rfl⟩
    exact ⟨x, hx, rfl, hv⟩
  · rintro ⟨x, hx, rfl, hv⟩
    exact ⟨x, hx, v, hv, rfl, rfl⟩

lemma get?_collect (hnodup : (xs.map key).Nodup) {x : α} (hx : x ∈ xs) :
    (collect key val xs)[key x]? = val x := by
  refine Option.ext fun v => ?_
  rw [get?_collect_eq_some hnodup]
  constructor
  · rintro ⟨y, hy, hkey, hv⟩
    obtain rfl := List.inj_on_of_nodup_map hnodup hy hx hkey
    exact hv
  · intro hv
    exact ⟨x, hx, rfl, hv⟩

end Collect

lemma get?_foldl_insert_entries (m : BTreeMap κ ν) (a : BTreeMap κ μ) (f : κ → μ → ν) (k : κ) :
    ((a.toList.map fun entry => (entry.1, f entry.1 entry.2)).foldl
      (fun m entry => m.insert entry.1 entry.2) m)[k]? = (a[k]?.map (f k)).or m[k]? := by
  have hkeys : (a.toList.map fun entry => (entry.1, f entry.1 entry.2)).map Prod.fst =
      a.toList.map Prod.fst := by
    rw [List.map_map]
    rfl
  rw [get?_foldl_insert m (hkeys ▸ nodup_map_fst_toList a), ← find?_toList a k, List.find?_map]
  simp only [Function.comp_def]
  cases hfind : a.toList.find? fun entry => entry.1 = k with
  | none => simp
  | some entry =>
    have hkey : entry.1 = k := by simpa using List.find?_some hfind
    simp [hkey]

lemma get?_foldl_insert_toList (m : BTreeMap κ ν) (a : BTreeMap κ μ) (f : μ → ν) (k : κ) :
    ((a.toList.map fun entry => (entry.1, f entry.2)).foldl
      (fun m entry => m.insert entry.1 entry.2) m)[k]? = (a[k]?.map f).or m[k]? :=
  get?_foldl_insert_entries m a (fun _ => f) k

end BTreeMap
end Ax
