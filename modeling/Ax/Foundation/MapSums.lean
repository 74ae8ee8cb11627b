import Mathlib.Algebra.BigOperators.Group.List.Basic
import Ax.Foundation.KeyedMap

/-!
# Sums over ordered maps

A quantity of each stored value is summed over a whole map.  The sum follows
insertions and removals by what they change, so a running total that is
updated next to a map can be compared with the sum over the map.

Main results:

- Theorem `sumOf_insert`: an insertion replaces what was stored.
- Theorem `sumOf_alter`: a changed entry adds what the change adds.
-/

namespace Ax
namespace BTreeMap

variable {κ ν M : Type} [Ord κ] [Std.TransOrd κ] [Std.LawfulEqOrd κ] [DecidableEq κ]
  [AddCommGroup M]

omit [Std.TransOrd κ] [Std.LawfulEqOrd κ] [DecidableEq κ] in
def sumOf (f : ν → M) (m : BTreeMap κ ν) : M :=
  (m.vals.map f).sum

omit [DecidableEq κ] in
/-- The quantity of what is stored under a key, zero if nothing is. -/
def amountAt (f : ν → M) (m : BTreeMap κ ν) (k : κ) : M :=
  (m[k]?.map f).getD 0

omit [Std.LawfulEqOrd κ] [DecidableEq κ] in
@[simp]
lemma amountAt_empty (f : ν → M) (k : κ) : amountAt f (∅ : BTreeMap κ ν) k = 0 := by
  simp [amountAt]

lemma toList_perm_cons_erase {m : BTreeMap κ ν} {k : κ} {v : ν} (h : m[k]? = some v) :
    m.toList.Perm ((k, v) :: (m.erase k).toList) := by
  have hnodup : m.toList.Nodup := (nodup_map_fst_toList m).of_map _
  have hnotMem : (k, v) ∉ (m.erase k).toList := by
    rw [Std.ExtTreeMap.mem_toList_iff_getElem?_eq_some, get?_erase, if_pos rfl]
    simp
  have hnodupErase : ((k, v) :: (m.erase k).toList).Nodup :=
    List.nodup_cons.mpr ⟨hnotMem, (nodup_map_fst_toList _).of_map _⟩
  rw [List.perm_ext_iff_of_nodup hnodup hnodupErase]
  rintro ⟨a, w⟩
  rw [List.mem_cons, Std.ExtTreeMap.mem_toList_iff_getElem?_eq_some,
    Std.ExtTreeMap.mem_toList_iff_getElem?_eq_some, get?_erase, Prod.mk.injEq]
  by_cases ha : a = k
  · subst ha
    simp [h, eq_comm]
  · simp [ha]

lemma sumOf_erase (f : ν → M) (m : BTreeMap κ ν) (k : κ) :
    sumOf f (m.erase k) = sumOf f m - amountAt f m k := by
  cases hget : m[k]? with
  | none =>
    have hsame : m.erase k = m := by
      refine ext_get? fun a => ?_
      rw [get?_erase]
      split
      · next ha => rw [ha, hget]
      · rfl
    simp [hsame, amountAt, hget]
  | some v =>
    have hsum := ((toList_perm_cons_erase hget).map fun entry => f entry.2).sum_eq
    rw [List.map_cons, List.sum_cons] at hsum
    simp only [sumOf, vals, List.map_map, Function.comp_def, amountAt, hget, Option.map_some,
      Option.getD_some]
    rw [hsum, add_sub_cancel_left]

/-- An insertion replaces what was stored. -/
theorem sumOf_insert (f : ν → M) (m : BTreeMap κ ν) (k : κ) (v : ν) :
    sumOf f (m.insert k v) = sumOf f m - amountAt f m k + f v := by
  have herase := sumOf_erase f (m.insert k v) k
  have hnew : amountAt f (m.insert k v) k = f v := by simp [amountAt]
  rw [erase_insert_self, sumOf_erase, hnew] at herase
  rw [herase, sub_add_cancel]

lemma amountAt_insert (f : ν → M) (m : BTreeMap κ ν) (k a : κ) (v : ν) :
    amountAt f (m.insert k v) a = if a = k then f v else amountAt f m a := by
  rw [amountAt, get?_insert]
  split <;> rfl

/-- An entry that is changed, or made from a value without any quantity, adds what the
change adds. -/
theorem sumOf_alter {f : ν → M} {d : M} {new v : ν} (m : BTreeMap κ ν) (k : κ) (hnew : f new = 0)
    (hchange : f v = f (m[k]?.getD new) + d) : sumOf f (m.insert k v) = sumOf f m + d := by
  have hold : f (m[k]?.getD new) = amountAt f m k := by
    cases hget : m[k]? with
    | none => simp [amountAt, hget, hnew]
    | some v => simp [amountAt, hget]
  rw [sumOf_insert, hchange, hold, ← add_assoc, sub_add_cancel]

end BTreeMap

end Ax
