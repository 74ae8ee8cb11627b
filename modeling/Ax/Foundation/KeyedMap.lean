import Ax.Foundation.BTreeMap

/-!
# Maps of records under their own keys

A store that files every record under a field of that record keeps one
invariant everywhere: the key of an entry is the key of its value.  A
`KeyedMap` carries that invariant as a field, so that a record can only be
stored where a lookup by its key finds it.

Main results:

- Theorems `values_perm` and `values_put_perm`: the records around an update.
- Theorems `Evolves.trans`, `Evolves.put` and `Evolves.put_fresh`: how a relation
  between old and new records lifts to the map.
-/

namespace Ax

/-- An ordered map whose records are filed under their own keys. -/
structure KeyedMap (κ ν : Type) [Ord κ] [Std.TransOrd κ] (key : ν → κ) where
  entries : BTreeMap κ ν
  keyed : ∀ {k : κ} {v : ν}, entries[k]? = some v → key v = k

namespace KeyedMap

variable {κ ν : Type} [Ord κ] [Std.TransOrd κ] [Std.LawfulEqOrd κ] [DecidableEq κ]
variable {key : ν → κ}

def get (m : KeyedMap κ ν key) (k : κ) : Option ν :=
  m.entries[k]?

def empty : KeyedMap κ ν key where
  entries := ∅
  keyed := by
    intro k v h
    simp at h

/-- Store a record under its own key. -/
def put (m : KeyedMap κ ν key) (v : ν) : KeyedMap κ ν key where
  entries := m.entries.insert (key v) v
  keyed := by
    intro k w h
    rw [BTreeMap.get?_insert] at h
    split at h
    · rename_i hk
      rw [hk, Option.some.inj h]
    · exact m.keyed h

def remove (m : KeyedMap κ ν key) (k : κ) : KeyedMap κ ν key where
  entries := m.entries.erase k
  keyed := by
    intro a v h
    rw [BTreeMap.get?_erase] at h
    split at h
    · cases h
    · exact m.keyed h

def modify (m : KeyedMap κ ν key) (k : κ) (f : ν → ν) : KeyedMap κ ν key :=
  match m.get k with
  | none => m
  | some v => m.put (f v)

def values (m : KeyedMap κ ν key) : List ν :=
  m.entries.vals

variable {k : κ} {m : KeyedMap κ ν key} {v : ν}

omit [Std.LawfulEqOrd κ] [DecidableEq κ] in
lemma key_of_get (h : m.get k = some v) : key v = k :=
  m.keyed h

omit [Std.LawfulEqOrd κ] [DecidableEq κ] in
@[simp]
lemma get_empty (k : κ) : (empty : KeyedMap κ ν key).get k = none := by
  simp [get, empty]

lemma get_put (m : KeyedMap κ ν key) (v : ν) (k : κ) :
    (m.put v).get k = if k = key v then some v else m.get k :=
  BTreeMap.get?_insert m.entries (key v) k v

@[simp]
lemma get_put_self (m : KeyedMap κ ν key) (v : ν) : (m.put v).get (key v) = some v := by
  rw [get_put, if_pos rfl]

lemma get_put_of_ne (m : KeyedMap κ ν key) (h : k ≠ key v) : (m.put v).get k = m.get k := by
  rw [get_put, if_neg h]

lemma get_remove (m : KeyedMap κ ν key) (k a : κ) :
    (m.remove k).get a = if a = k then none else m.get a :=
  BTreeMap.get?_erase m.entries k a

lemma get_modify (m : KeyedMap κ ν key) {f : ν → ν} (hf : ∀ v, key (f v) = key v) (k a : κ) :
    (m.modify k f).get a = if a = k then (m.get k).map f else m.get a := by
  unfold modify
  cases hget : m.get k with
  | none =>
    by_cases ha : a = k
    · rw [if_pos ha, ha, hget, Option.map_none]
    · rw [if_neg ha]
  | some v => rw [get_put, hf, key_of_get hget, Option.map_some]

omit [DecidableEq κ] in
lemma ext_get {m' : KeyedMap κ ν key} (h : ∀ k, m.get k = m'.get k) : m = m' := by
  cases m with
  | mk entries keyed =>
    cases m' with
    | mk entries' keyed' =>
      have heq : entries = entries' := BTreeMap.ext_get? h
      subst heq
      rfl

lemma put_of_get (h : m.get (key v) = some v) : m.put v = m := by
  apply ext_get
  intro k
  rw [get_put]
  split
  · rename_i hk
    rw [hk, h]
  · rfl

lemma remove_put (h : m.get (key v) = none) : (m.put v).remove (key v) = m := by
  apply ext_get
  intro k
  rw [get_remove, get_put]
  split
  · rename_i hk
    rw [hk, h]
  · rfl

omit [DecidableEq κ] in
lemma mem_values_iff : v ∈ m.values ↔ m.get (key v) = some v := by
  constructor
  · intro h
    obtain ⟨k, hk⟩ := BTreeMap.mem_vals_iff.mp h
    rw [m.keyed hk]
    exact hk
  · intro h
    exact BTreeMap.mem_vals_iff.mpr ⟨key v, h⟩

omit [DecidableEq κ] in
lemma mem_values_of_get (h : m.get k = some v) : v ∈ m.values := by
  rw [mem_values_iff, key_of_get h, h]

omit [DecidableEq κ] in
lemma nodup_map_values (m : KeyedMap κ ν key) : (m.values.map key).Nodup := by
  have hkeys : m.values.map key = m.entries.toList.map Prod.fst := by
    rw [values, BTreeMap.vals, List.map_map]
    apply List.map_congr_left
    rintro ⟨k, v⟩ hmem
    exact m.keyed (Std.ExtTreeMap.mem_toList_iff_getElem?_eq_some.mp hmem)
  rw [hkeys, List.Nodup, List.pairwise_map]
  refine Std.ExtTreeMap.distinct_keys_toList.imp ?_
  intro a b hne heq
  exact hne (by rw [heq]; exact Std.ReflCmp.compare_self)

omit [DecidableEq κ] in
lemma nodup_values (m : KeyedMap κ ν key) : m.values.Nodup := by
  have hnodup := m.nodup_map_values
  rw [List.Nodup, List.pairwise_map] at hnodup
  exact hnodup.imp fun hne heq => hne (congrArg key heq)

/-- The records with the one under a key in front, if there is one. -/
theorem values_perm (m : KeyedMap κ ν key) (k : κ) :
    m.values.Perm ((m.get k).toList ++ (m.remove k).values) := by
  have hnodup : ((m.get k).toList ++ (m.remove k).values).Nodup := by
    cases h : m.get k with
    | none => exact nodup_values _
    | some v =>
      have hnotmem : v ∉ (m.remove k).values := by
        rw [mem_values_iff, get_remove, if_pos (key_of_get h)]
        exact nofun
      exact List.nodup_cons.mpr ⟨hnotmem, nodup_values _⟩
  refine (List.perm_ext_iff_of_nodup m.nodup_values hnodup).mpr fun w => ?_
  rw [List.mem_append, Option.mem_toList, mem_values_iff, mem_values_iff, get_remove]
  by_cases hw : key w = k
  · simp [hw]
  · rw [if_neg hw]
    refine ⟨.inr, fun hmem => hmem.resolve_left fun hget => hw (key_of_get hget)⟩

/-- The records with the one just stored in front. -/
theorem values_put_perm (m : KeyedMap κ ν key) (v : ν) :
    (m.put v).values.Perm (v :: (m.remove (key v)).values) := by
  have hremove : (m.put v).remove (key v) = m.remove (key v) := by
    refine ext_get fun k => ?_
    rw [get_remove, get_remove, get_put]
    split <;> rfl
  have hperm := values_perm (m.put v) (key v)
  rwa [get_put_self, hremove] at hperm

omit [DecidableEq κ] in
@[simp]
lemma values_empty : (empty : KeyedMap κ ν key).values = [] := by
  refine List.eq_nil_iff_forall_not_mem.mpr fun v hv => ?_
  rw [mem_values_iff, get_empty] at hv
  cases hv

lemma get_put_eq_none {v' : ν} (hget : m.get (key v') = some v) (hk : m.get k = none) :
    (m.put v').get k = none := by
  rw [get_put_of_ne]
  · exact hk
  · rintro rfl
    rw [hget] at hk
    cases hk

/-! ## Evolution of the records -/

/-- Every record of `m` is still there in `m'`, in a form that `Q` relates to
the old one. -/
def Evolves (Q : ν → ν → Prop) (m m' : KeyedMap κ ν key) : Prop :=
  ∀ k v, m.get k = some v → ∃ v', m'.get k = some v' ∧ Q v v'

namespace Evolves

variable {Q : ν → ν → Prop}

omit [Std.LawfulEqOrd κ] [DecidableEq κ] in
lemma refl (hrefl : ∀ v, Q v v) (m : KeyedMap κ ν key) : Evolves Q m m :=
  fun _ v hget => ⟨v, hget, hrefl v⟩

omit [Std.LawfulEqOrd κ] [DecidableEq κ] in
/-- Evolutions compose. -/
theorem trans (htrans : ∀ u v w, Q u v → Q v w → Q u w) {m₁ m₂ m₃ : KeyedMap κ ν key}
    (h₁ : Evolves Q m₁ m₂) (h₂ : Evolves Q m₂ m₃) : Evolves Q m₁ m₃ := by
  intro k u hu
  obtain ⟨v, hv, huv⟩ := h₁ k u hu
  obtain ⟨w, hw, hvw⟩ := h₂ k v hv
  exact ⟨w, hw, htrans u v w huv hvw⟩

/-- Replacing a stored record by a related one. -/
theorem put (hrefl : ∀ v, Q v v) {m : KeyedMap κ ν key} {v v' : ν}
    (hget : m.get (key v') = some v) (hrel : Q v v') : Evolves Q m (m.put v') := by
  intro k w hw
  by_cases hk : k = key v'
  · subst hk
    have hsame : v = w := Option.some.inj (hget.symm.trans hw)
    subst hsame
    exact ⟨v', get_put_self m v', hrel⟩
  · refine ⟨w, ?_, hrefl w⟩
    rw [get_put_of_ne _ hk]
    exact hw

lemma put_fresh (hrefl : ∀ v, Q v v) {m : KeyedMap κ ν key} {v' : ν}
    (hfresh : m.get (key v') = none) : Evolves Q m (m.put v') := by
  intro k w hw
  have hk : k ≠ key v' := by
    rintro rfl
    rw [hfresh] at hw
    cases hw
  refine ⟨w, ?_, hrefl w⟩
  rw [get_put_of_ne _ hk]
  exact hw

end Evolves

end KeyedMap
end Ax
