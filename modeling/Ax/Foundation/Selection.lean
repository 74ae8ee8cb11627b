import Mathlib.Data.List.Basic

/-!
# The first elements with a property

Taking the first `n` elements with a property out of a list, and marking them in
place.  A list of marked elements remembers what became of everything that was
ever in it, so the second operation keeps the books of the first.

Main results:

- Theorem `filter_marked`: the marked elements are the ones that were taken.
- Theorem `getElem?_markFirst`: marking changes elements with the property only.
-/

namespace Ax

variable {α β : Type}

/-- The first `n` elements with the property, and all other elements. -/
def takeFirst (p : α → Bool) : Nat → List α → List α × List α
  | 0, l => ([], l)
  | _ + 1, [] => ([], [])
  | n + 1, x :: l =>
    if p x then (x :: (takeFirst p n l).1, (takeFirst p n l).2)
    else ((takeFirst p (n + 1) l).1, x :: (takeFirst p (n + 1) l).2)

/-- Apply `f` to the first `n` elements with the property. -/
def markFirst (p : α → Bool) (f : α → α) : Nat → List α → List α
  | 0, l => l
  | _ + 1, [] => []
  | n + 1, x :: l => if p x then f x :: markFirst p f n l else x :: markFirst p f (n + 1) l

/-! ## Taking -/

section Take

variable {p : α → Bool}

@[simp]
lemma takeFirst_nil (n : Nat) : takeFirst p n [] = ([], []) := by
  cases n <;> rfl

@[simp]
lemma takeFirst_zero (l : List α) : takeFirst p 0 l = ([], l) := by
  cases l <;> rfl

@[simp]
lemma takeFirst_cons_of_neg {x : α} (hx : p x = false) (n : Nat) (l : List α) :
    takeFirst p n (x :: l) = ((takeFirst p n l).1, x :: (takeFirst p n l).2) := by
  cases n with
  | zero => rw [takeFirst_zero, takeFirst_zero]
  | succ n => exact if_neg (hx ▸ Bool.false_ne_true)

@[simp]
lemma takeFirst_cons_of_pos {x : α} (hx : p x = true) (n : Nat) (l : List α) :
    takeFirst p (n + 1) (x :: l) = (x :: (takeFirst p n l).1, (takeFirst p n l).2) :=
  if_pos hx

lemma takeFirst_induction {motive : Nat → List α → Prop} (nil : ∀ n, motive n [])
    (zero : ∀ l, motive 0 l)
    (neg : ∀ n x l, p x = false → motive n l → motive n (x :: l))
    (pos : ∀ n x l, p x = true → motive n l → motive (n + 1) (x :: l)) (n : Nat) (l : List α) :
    motive n l := by
  induction l generalizing n with
  | nil => exact nil n
  | cons x l ih =>
    cases hx : p x with
    | false => exact neg n x l hx (ih n)
    | true =>
      cases n with
      | zero => exact zero (x :: l)
      | succ n => exact pos n x l hx (ih n)

lemma takeFirst_fst (n : Nat) (l : List α) : (takeFirst p n l).1 = (l.filter p).take n := by
  induction n, l using takeFirst_induction (p := p) <;> simp [*]

lemma takeFirst_snd_sublist (n : Nat) (l : List α) : (takeFirst p n l).2.Sublist l := by
  induction n, l using takeFirst_induction (p := p) with
  | nil | zero => simp
  | neg n x l hx ih => simpa [hx] using ih
  | pos n x l hx ih => simpa [hx] using ih.cons x

lemma takeFirst_perm (n : Nat) (l : List α) :
    ((takeFirst p n l).1 ++ (takeFirst p n l).2).Perm l := by
  induction n, l using takeFirst_induction (p := p) with
  | nil | zero => simp
  | neg n x l hx ih => simpa [hx] using List.perm_middle.trans (ih.cons x)
  | pos n x l hx ih => simpa [hx] using ih

lemma filter_takeFirst_snd (n : Nat) (l : List α) :
    (takeFirst p n l).2.filter p = (l.filter p).drop n := by
  induction n, l using takeFirst_induction (p := p) <;> simp [*]

lemma filter_not_takeFirst_snd (n : Nat) (l : List α) :
    (takeFirst p n l).2.filter (fun x => !p x) = l.filter fun x => !p x := by
  induction n, l using takeFirst_induction (p := p) <;> simp [*]

lemma takeFirst_map (g : β → α) (n : Nat) (l : List β) :
    takeFirst p n (l.map g) =
      ((takeFirst (p ∘ g) n l).1.map g, (takeFirst (p ∘ g) n l).2.map g) := by
  induction n, l using takeFirst_induction (p := p ∘ g) <;> simp_all

variable {l : List α}

lemma takeFirst_of_forall (h : ∀ x ∈ l, p x = true) (n : Nat) :
    takeFirst p n l = (l.take n, l.drop n) := by
  induction n, l using takeFirst_induction (p := p) <;> simp_all

lemma takeFirst_congr {p' : α → Bool} (h : ∀ x ∈ l, p x = p' x) (n : Nat) :
    takeFirst p n l = takeFirst p' n l := by
  induction n, l using takeFirst_induction (p := p) <;> simp_all

lemma takeFirst_of_length_le {n : Nat} (h : l.length ≤ n) :
    takeFirst p n l = (l.filter p, l.filter fun x => !p x) := by
  induction n, l using takeFirst_induction (p := p) with
  | neg n x l hx ih => simp [hx, ih (Nat.le_of_succ_le h)]
  | _ => simp_all

end Take

/-! ## Marking -/

section Mark

variable {p q : α → Bool} {f : α → α}

@[simp]
lemma markFirst_nil (n : Nat) : markFirst p f n [] = [] := by
  cases n <;> rfl

@[simp]
lemma markFirst_zero (l : List α) : markFirst p f 0 l = l := by
  cases l <;> rfl

@[simp]
lemma markFirst_cons_of_neg {x : α} (hx : p x = false) (n : Nat) (l : List α) :
    markFirst p f n (x :: l) = x :: markFirst p f n l := by
  cases n with
  | zero => rw [markFirst_zero, markFirst_zero]
  | succ n => exact if_neg (hx ▸ Bool.false_ne_true)

@[simp]
lemma markFirst_cons_of_pos {x : α} (hx : p x = true) (n : Nat) (l : List α) :
    markFirst p f (n + 1) (x :: l) = f x :: markFirst p f n l :=
  if_pos hx

variable {x : α} {l : List α}

/-- Marking changes elements with the property only. -/
theorem getElem?_markFirst {i : Nat} (h : l[i]? = some x) (n : Nat) :
    (markFirst p f n l)[i]? = some x ∨ p x = true ∧ (markFirst p f n l)[i]? = some (f x) := by
  induction n, l using takeFirst_induction (p := p) generalizing i with
  | nil n => simp at h
  | zero l => simp [h]
  | neg n y l hy ih | pos n y l hy ih =>
    cases i with
    | zero => simp_all
    | succ i => simpa [hy] using ih h

lemma mem_markFirst {y : α} {n : Nat} (h : y ∈ markFirst p f n l) :
    y ∈ l ∨ ∃ x ∈ (l.filter p).take n, y = f x := by
  induction n, l using takeFirst_induction (p := p) with
  | nil n => simp at h
  | zero l => exact .inl (markFirst_zero l ▸ h)
  | neg n x l hx ih | pos n x l hx ih =>
    simp only [hx, markFirst_cons_of_neg, markFirst_cons_of_pos, List.mem_cons] at h
    rcases h with rfl | h
    · simp_all
    · rcases ih h with hold | ⟨x', hx', rfl⟩
      · exact .inl (List.mem_cons_of_mem x hold)
      · exact .inr ⟨x', by simp [hx, hx'], rfl⟩

lemma map_markFirst {g : α → β} (hg : ∀ x, g (f x) = g x) (n : Nat) (l : List α) :
    (markFirst p f n l).map g = l.map g := by
  induction n, l using takeFirst_induction (p := p) <;> simp [*]

lemma filter_markFirst (hpq : ∀ x, p x = true → q x = true)
    (hfq : ∀ x, p x = true → q (f x) = false) (n : Nat) (l : List α) :
    (markFirst p f n l).filter q = (takeFirst p n (l.filter q)).2 := by
  induction n, l using takeFirst_induction (p := p) with
  | nil | zero => simp
  | neg n x l hx ih => cases hq : q x <;> simp [hx, hq, ih]
  | pos n x l hx ih => simp [hx, hpq x hx, hfq x hx, ih]

lemma filter_markFirst_of_disjoint (hpq : ∀ x, p x = true → q x = false)
    (hfq : ∀ x, p x = true → q (f x) = false) (n : Nat) (l : List α) :
    (markFirst p f n l).filter q = l.filter q := by
  induction n, l using takeFirst_induction (p := p) <;> simp_all [List.filter_cons]

/-- The elements with a new mark are the ones that were taken. -/
theorem filter_marked (hfq : ∀ x, p x = true → q (f x) = true) (hnew : ∀ x ∈ l, q x = false)
    (n : Nat) : (markFirst p f n l).filter q = ((l.filter p).take n).map f := by
  induction n, l using takeFirst_induction (p := p) <;> simp_all

end Mark

end Ax
