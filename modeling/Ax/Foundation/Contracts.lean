import Ax.Foundation.Fallible

/-!
# Contracts of programs

A contract says in which states a program issues which commands.  It has an assumption and a
guarantee: as long as the assumption has held at every command, each command meets the
guarantee in the state it is issued in, and the program ends with the postcondition.  An
assumption that guaranteed commands keep is then an invariant of the program.

Main results:

- Theorem `Contract.issues`: what the assumptions are about is an invariant if guaranteed
  commands keep it.
- Theorems `Issues.passes` and `Issues.commands`: an invariant holds in every state passed, and
  all commands are as it allows.
-/

namespace Ax.Prog

variable {C : Type} {R : C → Type} {α β ε σ : Type}

/-! ## Commands in the states they are issued in -/

/-- Every command is issued in a state in which `G` allows it. -/
def Issues (exec : (c : C) → σ → R c × σ) (G : σ → C → Prop) : Prog R α → σ → Prop
  | .ret _, _ => True
  | .act c k, s => G s c ∧ (k (exec c s).1).Issues exec G (exec c s).2

instance {exec : (c : C) → σ → R c × σ} {G : σ → C → Prop} [∀ s c, Decidable (G s c)] :
    (p : Prog R α) → (s : σ) → Decidable (p.Issues exec G s)
  | .ret _, _ => inferInstanceAs (Decidable True)
  | .act c k, s =>
    have : Decidable ((k (exec c s).1).Issues exec G (exec c s).2) :=
      instDecidableIssues (k (exec c s).1) (exec c s).2
    inferInstanceAs (Decidable (_ ∧ _))

variable {exec : (c : C) → σ → R c × σ} {A G : σ → C → Prop}

namespace Issues

variable {I : σ → Prop} {p : Prog R α} {s : σ}

variable (hstep : ∀ s c, G s c → I s → I (exec c s).2)
include hstep

/-- An invariant that guaranteed commands keep holds in every state passed. -/
theorem passes (h : p.Issues exec G s) (hs : I s) : ∀ t ∈ p.passed exec s, I t := by
  induction p generalizing s with
  | ret a =>
    intro t ht
    rw [List.mem_singleton.mp ht]
    exact hs
  | act c k ih =>
    intro t ht
    rcases List.mem_cons.mp ht with rfl | hrest
    · exact hs
    · exact ih _ h.2 (hstep s c h.1 hs) t hrest

lemma invariant (h : p.Issues exec G s) (hs : I s) : I (p.run exec s).2 :=
  h.passes hstep hs _ (runs_run p s).mem_passed

/-- Under such an invariant all commands are as guarantee and invariant allow. -/
theorem commands {allowed : C → Prop} (hallowed : ∀ s c, G s c → I s → allowed c)
    (h : p.Issues exec G s) (hs : I s) : ∀ c ∈ p.commands exec s, allowed c := by
  induction p generalizing s with
  | ret a => simp [Prog.commands]
  | act c k ih =>
    intro c' hc'
    rcases List.mem_cons.mp hc' with rfl | hrest
    · exact hallowed s _ h.1 hs
    · exact ih _ h.2 (hstep s c h.1 hs) c' hrest

end Issues

/-! ## Contracts -/

/-- As long as `A` holds at every command, every command is within `G`; and if it held at all
of them, the program ends in `Q`. -/
def Meets (exec : (c : C) → σ → R c × σ) (A G : σ → C → Prop) (Q : α → σ → Prop) :
    Prog R α → σ → Prop
  | .ret a, s => Q a s
  | .act c k, s => A s c → G s c ∧ (k (exec c s).1).Meets exec A G Q (exec c s).2

/-- From every state with `P` the program keeps within `G` under `A` and ends in `Q`. -/
structure Contract (exec : (c : C) → σ → R c × σ) (A G : σ → C → Prop) (P : σ → Prop)
    (p : Prog R α) (Q : α → σ → Prop) : Prop where
  meets : ∀ s, P s → p.Meets exec A G Q s

namespace Contract

variable {P P' : σ → Prop} {Q Q' : α → σ → Prop} {p : Prog R α}

lemma ret {a : α} (h : ∀ s, P s → Q a s) : Contract exec A G P (pure a) Q :=
  ⟨h⟩

lemma call {c : C} {Q : R c → σ → Prop}
    (hc : ∀ s, P s → A s c → G s c ∧ Q (exec c s).1 (exec c s).2) :
    Contract exec A G P (call c) Q :=
  ⟨hc⟩

lemma bind {f : α → Prog R β} {S : β → σ → Prop} (hp : Contract exec A G P p Q)
    (hf : ∀ a, Contract exec A G (Q a) (f a) S) : Contract exec A G P (p >>= f) S := by
  have hbind : ∀ s, p.Meets exec A G Q s → (p >>= f).Meets exec A G S s := by
    clear hp
    induction p with
    | ret a => exact (hf a).meets
    | act c k ih =>
      intro s hmeets hassume
      exact ⟨(hmeets hassume).1, ih _ _ (hmeets hassume).2⟩
  exact ⟨fun s hs => hbind s (hp.meets s hs)⟩

lemma act {c : C} {k : R c → Prog R α} {M : R c → σ → Prop}
    (hc : ∀ s, P s → A s c → G s c ∧ M (exec c s).1 (exec c s).2)
    (hk : ∀ r, Contract exec A G (M r) (k r) Q) : Contract exec A G P (Prog.call c >>= k) Q :=
  bind (call hc) hk

lemma imp (hp : Contract exec A G P p Q) (hP : ∀ s, P' s → P s)
    (hQ : ∀ a s, Q a s → Q' a s) : Contract exec A G P' p Q' := by
  have hmono : ∀ s, p.Meets exec A G Q s → p.Meets exec A G Q' s := by
    clear hp
    induction p with
    | ret a => exact hQ a
    | act c k ih =>
      intro s hmeets hassume
      exact ⟨(hmeets hassume).1, ih _ _ (hmeets hassume).2⟩
  exact ⟨fun s hs => hmono s (hp.meets s (hP s hs))⟩

lemma given {fact : Prop} (hfact : ∀ s, P s → fact)
    (hp : fact → Contract exec A G P p Q) : Contract exec A G P p Q :=
  ⟨fun s hs => (hp (hfact s hs)).meets s hs⟩

lemma mapM {f : α → Prog R β} {xs : List α}
    (hbody : ∀ x ∈ xs, Contract exec A G P (f x) fun _ => P) :
    Contract exec A G P (Prog.mapM f xs) fun _ => P := by
  induction xs with
  | nil => exact ret fun _ h => h
  | cons x xs ih =>
    refine bind (hbody x List.mem_cons_self) fun _ => ?_
    refine bind (ih fun y hy => hbody y (List.mem_cons_of_mem x hy)) fun _ => ?_
    exact ret fun _ h => h

lemma attempt {r : Except ε α} {f : α → Prog R (Except ε β)} {S : Except ε β → σ → Prop}
    (herror : ∀ e s, P s → S (.error e) s) (hok : ∀ a, r = .ok a → Contract exec A G P (f a) S) :
    Contract exec A G P (Prog.attempt r f) S := by
  cases r with
  | error e => exact ret (herror e)
  | ok a => exact hok a rfl

lemma of_uses {allowed : C → Prop} (h : p.Uses allowed)
    (hc : ∀ s c, allowed c → A s c → G s c) : Contract exec A G P p fun _ _ => True := by
  suffices hall : ∀ s, p.Meets exec A G (fun _ _ => True) s from
    ⟨fun s _ => hall s⟩
  induction h with
  | done a => exact fun _ => trivial
  | step hallowed _ ih => exact fun s hassume => ⟨hc s _ hallowed hassume, ih _ _⟩

lemma keeping {allowed : C → Prop} (hp : Contract exec A G P p Q) (h : p.Uses allowed)
    (hstep : ∀ s c, allowed c → A s c → P s → P (exec c s).2) :
    Contract exec A G P p fun _ => P := by
  have hkept : ∀ s, p.Meets exec A G Q s → P s → p.Meets exec A G (fun _ => P) s := by
    clear hp
    induction h with
    | done a => exact fun _ _ hs => hs
    | step hallowed _ ih =>
      intro s hmeets hs hassume
      exact ⟨(hmeets hassume).1, ih _ _ (hmeets hassume).2 (hstep s _ hallowed hassume hs)⟩
  exact ⟨fun s hs => hkept s (hp.meets s hs) hs⟩

/-- If guaranteed commands keep an invariant that the assumption is about, it holds at every
command, and so does the guarantee. -/
theorem issues {I : σ → Prop} {F : σ → C → Prop} (hp : Contract exec A G P p Q)
    (hassume : ∀ s c, I s → F s c → A s c)
    (hstep : ∀ s c, I s → F s c → G s c → I (exec c s).2) {s : σ} (hP : P s) (hI : I s)
    (hF : p.Issues exec F s) : p.Issues exec (fun s c => I s ∧ F s c ∧ G s c) s := by
  have hall : ∀ s, p.Meets exec A G Q s → I s → p.Issues exec F s →
      p.Issues exec (fun s c => I s ∧ F s c ∧ G s c) s := by
    clear hp hP hI hF
    induction p with
    | ret a => exact fun _ _ _ _ => trivial
    | act c k ih =>
      intro s hmeets hI hF
      obtain ⟨hguarantee, hrest⟩ := hmeets (hassume s c hI hF.1)
      exact ⟨⟨hI, hF.1, hguarantee⟩, ih _ _ hrest (hstep s c hI hF.1 hguarantee) hF.2⟩
  exact hall s (hp.meets s hP) hI hF

end Contract
end Ax.Prog
