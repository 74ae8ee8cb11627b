import Mathlib.Data.List.Induction

/-!
# Finite executions of a labelled transition system

A store, a scheduler or a set of interleaved callers is a step relation on a
state type whose steps carry labels.  This file defines its finite executions
and the rules by which a fact about one step becomes a fact about a whole run.

Main results:

- Theorems `Exec.eachState_of_eachStep`, `Exec.invariant_of_eachStep` and
  `Exec.eachState_iff_eachStep`: invariants that steps keep under a condition, or exactly under it.
- Theorems `exec_of_runSteps`, `eachStep_of_checkSteps` and `eachState_of_checkStates`: executions
  of a step function, and conditions along them, by evaluation.
-/

namespace Ax

variable {σ α : Type}

/-- Finite executions of `step`, with the list of labels in order. -/
inductive Exec (step : σ → α → σ → Prop) : σ → List α → σ → Prop
  | nil (s : σ) : Exec step s [] s
  | cons {s t u : σ} {a : α} {as : List α}
      (hstep : step s a t) (hrest : Exec step t as u) : Exec step s (a :: as) u

namespace Exec

variable {step : σ → α → σ → Prop} {a : α} {s t u : σ} {as bs : List α}
  {P : σ → α → Prop} {Q : σ → Prop}

lemma single (hstep : step s a t) : Exec step s [a] t :=
  cons hstep (nil t)

lemma append (hleft : Exec step s as t) (hright : Exec step t bs u) :
    Exec step s (as ++ bs) u := by
  induction hleft with
  | nil s => exact hright
  | cons hstep _ ih => exact cons hstep (ih hright)

lemma append_iff : Exec step s (as ++ bs) u ↔ ∃ t, Exec step s as t ∧ Exec step t bs u := by
  constructor
  · intro h
    induction as generalizing s with
    | nil => exact ⟨s, nil s, h⟩
    | cons a as ih =>
      rw [List.cons_append] at h
      cases h with
      | cons hstep hrest =>
        obtain ⟨t, hleft, hright⟩ := ih hrest
        exact ⟨t, cons hstep hleft, hright⟩
  · rintro ⟨t, hleft, hright⟩
    exact append hleft hright

lemma cons_iff : Exec step s (a :: as) u ↔ ∃ t, step s a t ∧ Exec step t as u := by
  constructor
  · intro h
    cases h with
    | cons hstep hrest => exact ⟨_, hstep, hrest⟩
  · rintro ⟨t, hstep, hrest⟩
    exact cons hstep hrest

lemma invariant {P : σ → Prop} (hpres : ∀ {s a t}, step s a t → P s → P t) (h : Exec step s as u)
    (hs : P s) : P u := by
  induction h with
  | nil s => exact hs
  | cons hstep _ ih => exact ih (hpres hstep hs)

lemma rightInduction {motive : List α → σ → Prop} (hnil : motive [] s)
    (hsnoc : ∀ {as t a u}, Exec step s as t → motive as t → step t a u → motive (as ++ [a]) u)
    (h : Exec step s as u) : motive as u := by
  induction as using List.reverseRecOn generalizing u with
  | nil =>
    cases h
    exact hnil
  | append_singleton as a ih =>
    obtain ⟨t, hleft, hlast⟩ := append_iff.mp h
    obtain ⟨v, hstep, hend⟩ := cons_iff.mp hlast
    cases hend
    exact hsnoc hleft (ih hleft) hstep

lemma reaches {P goal : σ → Prop} {allowed : α → Prop} (work : σ → Nat)
    (hpres : ∀ {s a t}, step s a t → P s → P t)
    (hprogress : ∀ {s}, P s → ¬goal s → ∃ a t, allowed a ∧ step s a t ∧ work t < work s)
    (s : σ) (hs : P s) : ∃ as t, (∀ a ∈ as, allowed a) ∧ Exec step s as t ∧ goal t := by
  by_cases hgoal : goal s
  · exact ⟨[], s, by simp, nil s, hgoal⟩
  · obtain ⟨a, t, ha, hstep, hless⟩ := hprogress hs hgoal
    obtain ⟨as, v, has, hrest, hv⟩ := reaches work hpres hprogress t (hpres hstep hs)
    refine ⟨a :: as, v, ?_, cons hstep hrest, hv⟩
    intro b hb
    rcases List.mem_cons.mp hb with rfl | hb
    · exact ha
    · exact has b hb
termination_by work s

/-! ## Conditions along an execution -/

/-- `P` holds of every step taken: of the state before it and its label. -/
def EachStep (step : σ → α → σ → Prop) (P : σ → α → Prop) (s : σ) (as : List α) : Prop :=
  ∀ pre a post t, as = pre ++ a :: post → Exec step s pre t → P t a

/-- `Q` holds of every state passed, the first and the last included. -/
def EachState (step : σ → α → σ → Prop) (Q : σ → Prop) (s : σ) (as : List α) : Prop :=
  ∀ pre post t, as = pre ++ post → Exec step s pre t → Q t

lemma EachStep.cons (hdet : ∀ s a t t', step s a t → step s a t' → t = t') (hstep : step s a t)
    (hfirst : P s a) (hrest : EachStep step P t as) : EachStep step P s (a :: as) := by
  intro pre b post u has hpre
  cases pre with
  | nil =>
    cases hpre
    obtain ⟨rfl, _⟩ := List.cons.inj has
    exact hfirst
  | cons b' pre =>
    obtain ⟨rfl, has'⟩ := List.cons.inj has
    obtain ⟨v, hstep', hpre'⟩ := cons_iff.mp hpre
    obtain rfl := hdet _ _ _ _ hstep hstep'
    exact hrest pre b post u has' hpre'

lemma EachStep.drop (h : EachStep step P s (as ++ bs)) (hexec : Exec step s as t) :
    EachStep step P t bs := by
  rintro pre a post u rfl hpre
  exact h (as ++ pre) a post u (List.append_assoc as pre _).symm (hexec.append hpre)

lemma EachStep.head (h : EachStep step P s (a :: as)) : P s a :=
  h [] a as s rfl (.nil s)

lemma EachStep.tail (h : EachStep step P s (a :: as)) (hstep : step s a t) :
    EachStep step P t as := by
  rintro pre b post u rfl hpre
  exact h (a :: pre) b post u rfl (.cons hstep hpre)

lemma EachStep.nil (s : σ) : EachStep step P s [] := by
  intro pre a post t has
  exact absurd has.symm (List.append_ne_nil_of_right_ne_nil _ (List.cons_ne_nil _ _))

/-- If a step keeps `Q` whenever it meets the condition `P`, then a run whose
steps all meet it passes only states with `Q`. -/
theorem eachState_of_eachStep (hpres : ∀ s a t, step s a t → Q s → P s a → Q t) (hs : Q s)
    (hsteps : EachStep step P s as) : EachState step Q s as := by
  intro pre post t has hexec
  refine rightInduction (motive := fun pre t => ∀ post, as = pre ++ post → Q t)
    (fun _ _ => hs) ?_ hexec post has
  intro pre t a u hpre ih hstep post has
  rw [List.append_assoc] at has
  exact hpres t a u hstep (ih _ has) (hsteps pre a post t has hpre)

/-- If a step keeps `Q` whenever it meets the condition `P`, then a run whose steps
all meet it ends with `Q`. -/
theorem invariant_of_eachStep (hpres : ∀ s a t, step s a t → Q s → P s a → Q t)
    (hrun : Exec step s as u) (hs : Q s) (hsteps : EachStep step P s as) : Q u :=
  eachState_of_eachStep hpres hs hsteps as [] u (List.append_nil as).symm hrun

lemma deterministic (hdet : ∀ s a t t', step s a t → step s a t' → t = t') {t' : σ}
    (h : Exec step s as t) (h' : Exec step s as t') : t = t' := by
  induction h with
  | nil s =>
    cases h'
    rfl
  | cons hstep _ ih =>
    cases h' with
    | cons hstep' hrest' =>
      obtain rfl := hdet _ _ _ _ hstep hstep'
      exact ih hrest'

/-- If a deterministic step keeps `Q` exactly when it meets the condition `P`,
then a run passes only states with `Q` exactly when its steps all meet the
condition. -/
theorem eachState_iff_eachStep (hdet : ∀ s a t t', step s a t → step s a t' → t = t')
    (hpres : ∀ s a t, step s a t → Q s → (Q t ↔ P s a)) (hrun : Exec step s as u) (hs : Q s) :
    EachState step Q s as ↔ EachStep step P s as := by
  constructor
  · rintro hstates pre a post t rfl hpre
    obtain ⟨t', hpre', hrest⟩ := append_iff.mp hrun
    obtain rfl := deterministic hdet hpre hpre'
    obtain ⟨v, hstep, _⟩ := cons_iff.mp hrest
    have hbefore : Q t := hstates pre (a :: post) t rfl hpre
    have hafter : Q v :=
      hstates (pre ++ [a]) post v (by simp) (append hpre (single hstep))
    exact (hpres t a v hstep hbefore).mp hafter
  · exact eachState_of_eachStep (fun s a t hstep hQ hP => (hpres s a t hstep hQ).mpr hP) hs

end Exec

/-! ## Executions of a step function -/

def runSteps (next : σ → α → Option σ) (s : σ) : List α → Option σ
  | [] => some s
  | a :: as => (next s a).bind fun t => runSteps next t as

def checkSteps (next : σ → α → Option σ) (p : σ → α → Bool) (s : σ) : List α → Bool
  | [] => true
  | a :: as => p s a && ((next s a).all fun t => checkSteps next p t as)

def checkStates (next : σ → α → Option σ) (q : σ → Bool) (s : σ) : List α → Bool
  | [] => q s
  | a :: as => q s && ((next s a).all fun t => checkStates next q t as)

variable {next : σ → α → Option σ} {step : σ → α → σ → Prop} {as : List α} {s : σ}

/-- A computed run is an execution. -/
theorem exec_of_runSteps (hstep : ∀ s a t, next s a = some t → step s a t) {u : σ}
    (h : runSteps next s as = some u) : Exec step s as u := by
  induction as generalizing s with
  | nil =>
    obtain rfl := Option.some.inj h
    exact Exec.nil s
  | cons a as ih =>
    obtain ⟨t, ht, hrest⟩ := Option.bind_eq_some_iff.mp h
    exact Exec.cons (hstep s a t ht) (ih hrest)

/-- The states before and after the middle one of some labels, and the last state. -/
def runAround (next : σ → α → Option σ) (s : σ) (before : List α) (a : α) (after : List α) :
    Option (σ × σ × σ) := do
  let t ← runSteps next s before
  let t' ← next t a
  let u ← runSteps next t' after
  return (t, t', u)

lemma runAround_eq_some {before after : List α} {a : α} {states : σ × σ × σ}
    (h : runAround next s before a after = some states) :
    runSteps next s before = some states.1 ∧ next states.1 a = some states.2.1 ∧
      runSteps next states.2.1 after = some states.2.2 := by
  obtain ⟨t, hbefore, h⟩ := Option.bind_eq_some_iff.mp h
  obtain ⟨t', ha, h⟩ := Option.bind_eq_some_iff.mp h
  obtain ⟨u, hafter, h⟩ := Option.bind_eq_some_iff.mp h
  cases h
  exact ⟨hbefore, ha, hafter⟩

/-- A condition that was tested before every step holds of every step. -/
theorem eachStep_of_checkSteps (hstep : ∀ s a t, step s a t → next s a = some t) {p : σ → α → Bool}
    {P : σ → α → Prop} (hp : ∀ s a, p s a = true → P s a) (h : checkSteps next p s as = true) :
    Exec.EachStep step P s as := by
  induction as generalizing s with
  | nil => exact Exec.EachStep.nil s
  | cons a as ih =>
    obtain ⟨hfirst, hrest⟩ := Bool.and_eq_true_iff.mp h
    intro pre b post u has hpre
    cases pre with
    | nil =>
      cases hpre
      obtain ⟨rfl, _⟩ := List.cons.inj has
      exact hp _ _ hfirst
    | cons b' pre =>
      obtain ⟨rfl, has'⟩ := List.cons.inj has
      obtain ⟨t, ht, hpre'⟩ := Exec.cons_iff.mp hpre
      rw [hstep _ _ _ ht] at hrest
      exact ih hrest pre b post u has' hpre'

/-- A property that was tested in every state holds in every state. -/
theorem eachState_of_checkStates (hstep : ∀ s a t, step s a t → next s a = some t) {q : σ → Bool}
    {Q : σ → Prop} (hq : ∀ s, q s = true → Q s) (h : checkStates next q s as = true) :
    Exec.EachState step Q s as := by
  induction as generalizing s with
  | nil =>
    intro pre post t has hpre
    obtain ⟨rfl, _⟩ := List.nil_eq_append_iff.mp has
    cases hpre
    exact hq _ h
  | cons a as ih =>
    obtain ⟨hfirst, hrest⟩ := Bool.and_eq_true_iff.mp h
    intro pre post u has hpre
    cases pre with
    | nil =>
      cases hpre
      exact hq _ hfirst
    | cons b pre =>
      obtain ⟨rfl, has'⟩ := List.cons.inj has
      obtain ⟨t, ht, hpre'⟩ := Exec.cons_iff.mp hpre
      rw [hstep _ _ _ ht] at hrest
      exact ih hrest pre post u has' hpre'

end Ax
