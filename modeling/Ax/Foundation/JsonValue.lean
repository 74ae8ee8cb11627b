import Ax.Foundation.Json

/-!
# Members of JSON objects

Two JSON texts have the same value if their objects have the same members, in whatever order
they are written; a name that is written twice counts with its last value.

Main results:

- Theorem `Json.Same.refl`: a value is the same as itself.
- Theorem `Json.lookup_toList`: the members of an encoded map.
-/

namespace Ax.Json

def lookup (entries : List (String × Json)) (name : String) : Option Json :=
  (entries.reverse.find? fun entry => entry.1 = name).map Prod.snd

def member? (name : String) : Json → Option Json
  | .obj entries => lookup entries name
  | _ => none

/-- Values that differ in the order of members only. -/
inductive Same : Json → Json → Prop
  | null : Same .null .null
  | bool (b : Bool) : Same (.bool b) (.bool b)
  | num (n : Int) : Same (.num n) (.num n)
  | str (s : String) : Same (.str s) (.str s)
  | arr {xs ys : List Json} (h : List.Forall₂ Same xs ys) : Same (.arr xs) (.arr ys)
  | obj {xs ys : List (String × Json)}
      (h : ∀ name, Option.Rel Same (lookup xs name) (lookup ys name)) : Same (.obj xs) (.obj ys)

lemma mem_of_lookup {entries : List (String × Json)} {name : String} {value : Json}
    (h : lookup entries name = some value) : (name, value) ∈ entries := by
  obtain ⟨entry, hfind, rfl⟩ := Option.map_eq_some_iff.mp h
  have hname : entry.1 = name := by simpa using List.find?_some hfind
  rw [← hname]
  exact List.mem_reverse.mp (List.mem_of_find?_eq_some hfind)

/-- A value is the same as itself. -/
theorem Same.refl (j : Json) : Same j j := by
  cases j with
  | null => exact .null
  | bool b => exact .bool b
  | num n => exact .num n
  | str s => exact .str s
  | arr items => exact .arr (List.forall₂_same.mpr fun item hitem => Same.refl item)
  | obj entries =>
    refine .obj fun name => ?_
    cases hlookup : lookup entries name with
    | none => exact .none
    | some value =>
      have hmem := mem_of_lookup hlookup
      exact .some (Same.refl value)
termination_by sizeOf j
decreasing_by
  · have := List.sizeOf_lt_of_mem hitem
    simp only [Json.arr.sizeOf_spec]
    omega
  · have := List.sizeOf_lt_of_mem hmem
    simp only [Json.obj.sizeOf_spec, Prod.mk.sizeOf_spec] at this ⊢
    omega

lemma Same.rel_refl (found : Option Json) : Option.Rel Same found found := by
  cases found with
  | none => exact .none
  | some value => exact .some (.refl value)

lemma Same.member? {j k : Json} (h : Same j k) (name : String) :
    Option.Rel Same (j.member? name) (k.member? name) := by
  cases h with
  | obj h => exact h name
  | _ => exact .none

lemma lookup_map (entries : List (String × Json)) (f : String → Json → Json) (name : String) :
    lookup (entries.map fun entry => (entry.1, f entry.1 entry.2)) name =
      (lookup entries name).map (f name) := by
  unfold lookup
  rw [← List.map_reverse, List.find?_map, Option.map_map, Option.map_map]
  cases hfind : entries.reverse.find?
      ((fun entry => decide (entry.1 = name)) ∘ fun entry => (entry.1, f entry.1 entry.2)) with
  | none =>
    have hnone : entries.reverse.find? (fun entry => decide (entry.1 = name)) = none := hfind
    rw [hnone]
    rfl
  | some entry =>
    have hsome : entries.reverse.find? (fun entry => decide (entry.1 = name)) = some entry :=
      hfind
    have hname : entry.1 = name := by simpa using List.find?_some hsome
    rw [hsome, ← hname]
    rfl

lemma lookup_filter (entries : List (String × Json)) (other name : String) :
    lookup (entries.filter fun entry => entry.1 ≠ other) name =
      if name = other then none else lookup entries name := by
  unfold lookup
  rw [← List.filter_reverse, List.find?_filter]
  split
  · rename_i hname
    subst hname
    rw [Option.map_eq_none_iff, List.find?_eq_none]
    intro entry _
    simp
  · rename_i hname
    congr 2
    funext entry
    by_cases heq : entry.1 = name
    · simp [heq, hname]
    · simp [heq]

/-- The members of an encoded map. -/
theorem lookup_toList {α : Type} (c : Codec α) (m : BTreeMap String α) (name : String) :
    lookup (m.toList.map fun entry => (entry.1, c.encode entry.2)) name =
      m[name]?.map c.encode := by
  cases hget : m[name]? with
  | none =>
    rw [Option.map_none]
    refine Option.eq_none_iff_forall_ne_some.mpr fun value hvalue => ?_
    obtain ⟨entry, hentry, heq⟩ := List.mem_map.mp (mem_of_lookup hvalue)
    obtain ⟨rfl, -⟩ := Prod.mk.inj heq
    have hsome := Std.ExtTreeMap.mem_toList_iff_getElem?_eq_some.mp hentry
    rw [hget] at hsome
    cases hsome
  | some a =>
    have hmem : (name, a) ∈ m.toList := Std.ExtTreeMap.mem_toList_iff_getElem?_eq_some.mpr hget
    cases hlookup : lookup (m.toList.map fun entry => (entry.1, c.encode entry.2)) name with
    | none =>
      rw [lookup, Option.map_eq_none_iff, List.find?_eq_none] at hlookup
      refine absurd ?_ (hlookup (name, c.encode a) ?_)
      · simp
      · exact List.mem_reverse.mpr (List.mem_map.mpr ⟨_, hmem, rfl⟩)
    | some value =>
      obtain ⟨entry, hentry, heq⟩ := List.mem_map.mp (mem_of_lookup hlookup)
      obtain ⟨rfl, rfl⟩ := Prod.mk.inj heq
      have hsome := Std.ExtTreeMap.mem_toList_iff_getElem?_eq_some.mp hentry
      rw [hget] at hsome
      rw [Option.some.inj hsome]
      rfl

end Ax.Json
