import Mathlib.Order.Defs.Unbundled

/-!
# Programs over atomic commands

A handler of a server is a sequence of atomic commands on shared data, each
chosen by the results of those before it.  `Prog` is the type of such programs.
`run` executes one without interruption; how several of them interleave is
the subject of `Ax.Foundation.Interleaving`.

Main results:

- Theorem `Uses.preserves`: what every command of a program preserves, the program preserves.
- Theorems `Honours.bind` and `Honours.mapM`: which commands a program issues, when they
  depend on what it was answered.
-/

namespace Ax

/-- Programs over commands `c : C` with results in `R c`. -/
inductive Prog {C : Type} (R : C → Type) (α : Type) : Type
  | ret (a : α)
  | act (c : C) (k : R c → Prog R α)

namespace Prog

variable {C : Type} {R : C → Type} {α β ε σ : Type}

/-- One command. -/
def call (c : C) : Prog R (R c) :=
  .act c .ret

def bind : Prog R α → (α → Prog R β) → Prog R β
  | .ret a, f => f a
  | .act c k, f => .act c fun r => (k r).bind f

/-- Programs are written with `do`. -/
instance : Monad (Prog R) where
  pure := .ret
  bind := .bind

/-- The same program for every element of a list, collecting the results. -/
def mapM (f : α → Prog R β) : List α → Prog R (List β)
  | [] => .ret []
  | x :: xs => do
      let y ← f x
      let ys ← mapM f xs
      return y :: ys

/-- Go on with a fallible result, or end with its error. -/
def attempt (r : Except ε α) (f : α → Prog R (Except ε β)) : Prog R (Except ε β) :=
  match r with
  | .error e => .ret (.error e)
  | .ok a => f a

/-- The commands of a program in isolation: the result and the last state. -/
def run (exec : (c : C) → σ → R c × σ) : Prog R α → σ → α × σ
  | .ret a, s => (a, s)
  | .act c k, s => (k (exec c s).1).run exec (exec c s).2

variable {exec : (c : C) → σ → R c × σ}

@[simp]
lemma run_pure (a : α) (s : σ) : (pure a : Prog R α).run exec s = (a, s) :=
  rfl

@[simp]
lemma run_call (c : C) (s : σ) : (call c : Prog R (R c)).run exec s = exec c s :=
  rfl

@[simp]
lemma run_bind (p : Prog R α) (f : α → Prog R β) (s : σ) :
    (p >>= f).run exec s = (f (p.run exec s).1).run exec (p.run exec s).2 := by
  induction p generalizing s with
  | ret a => rfl
  | act c k ih => exact ih (exec c s).1 (exec c s).2

/-! ## Pre- and postconditions -/

/-- From every state with `P` the program ends with a result and a state in `Q`. -/
def Triple (exec : (c : C) → σ → R c × σ) (P : σ → Prop) (p : Prog R α) (Q : α → σ → Prop) :
    Prop :=
  ∀ s, P s → Q (p.run exec s).1 (p.run exec s).2

namespace Triple

variable {P : σ → Prop} {Q : α → σ → Prop}

lemma ret {a : α} (h : ∀ s, P s → Q a s) : Triple exec P (pure a) Q :=
  h

lemma bind {p : Prog R α} {f : α → Prog R β} {S : β → σ → Prop} (hp : Triple exec P p Q)
    (hf : ∀ a, Triple exec (Q a) (f a) S) : Triple exec P (p >>= f) S := by
  intro s hs
  rw [run_bind]
  exact hf _ _ (hp s hs)

/-- A loop over a list whose body keeps an invariant. -/
theorem mapM {f : α → Prog R β} {xs : List α} (hbody : ∀ x ∈ xs, Triple exec P (f x) fun _ => P) :
    Triple exec P (Prog.mapM f xs) fun _ => P := by
  induction xs with
  | nil => exact ret fun _ h => h
  | cons x xs ih =>
    refine bind (hbody x List.mem_cons_self) fun _ => ?_
    refine bind (ih fun y hy => hbody y (List.mem_cons_of_mem x hy)) fun _ => ?_
    exact ret fun _ h => h

end Triple

/-! ## Relations between the states before and after -/

def Respects (exec : (c : C) → σ → R c × σ) (rel : σ → σ → Prop) (p : Prog R α) : Prop :=
  ∀ s, rel s (p.run exec s).2

namespace Respects

variable {rel : σ → σ → Prop} [IsPreorder σ rel]

lemma ret (a : α) : Respects exec rel (pure a : Prog R α) :=
  fun s => refl_of rel s

lemma bind {p : Prog R α} {f : α → Prog R β} (hp : Respects exec rel p)
    (hf : ∀ a, Respects exec rel (f a)) : Respects exec rel (p >>= f) := by
  intro s
  rw [run_bind]
  exact trans_of rel (hp s) (hf _ _)

lemma mapM {f : α → Prog R β} {xs : List α} (h : ∀ x ∈ xs, Respects exec rel (f x)) :
    Respects exec rel (Prog.mapM f xs) := by
  induction xs with
  | nil => exact ret _
  | cons x xs ih =>
    refine bind (h x List.mem_cons_self) fun _ => ?_
    exact bind (ih fun y hy => h y (List.mem_cons_of_mem x hy)) fun _ => ret _

/-- A fallible result and what follows it. -/
theorem attempt {r : Except ε α} {f : α → Prog R (Except ε β)}
    (h : ∀ a, r = .ok a → Respects exec rel (f a)) : Respects exec rel (Prog.attempt r f) := by
  cases r with
  | error e => exact ret _
  | ok a => exact h a rfl

end Respects

/-! ## Programs restricted to some commands -/

inductive Uses (allowed : C → Prop) : Prog R α → Prop
  | done (a : α) : Uses allowed (.ret a)
  | step {c : C} {k : R c → Prog R α} (hc : allowed c) (hk : ∀ r, Uses allowed (k r)) :
      Uses allowed (.act c k)

namespace Uses

variable {allowed : C → Prop}

lemma ret (a : α) : Uses allowed (pure a : Prog R α) :=
  done a

lemma call {c : C} (h : allowed c) : Uses allowed (Prog.call c : Prog R (R c)) :=
  step h done

variable {p : Prog R α}

lemma bind {f : α → Prog R β} (hp : Uses allowed p) (hf : ∀ a, Uses allowed (f a)) :
    Uses allowed (p >>= f) := by
  induction hp with
  | done a => exact hf a
  | step hc _ ih => exact step hc ih

lemma mapM {f : α → Prog R β} {xs : List α} (h : ∀ x ∈ xs, Uses allowed (f x)) :
    Uses allowed (Prog.mapM f xs) := by
  induction xs with
  | nil => exact ret _
  | cons x xs ih =>
    refine bind (h x List.mem_cons_self) fun _ => ?_
    exact bind (ih fun y hy => h y (List.mem_cons_of_mem x hy)) fun _ => ret _

/-- A fallible result and what follows it. -/
theorem attempt {r : Except ε α} {f : α → Prog R (Except ε β)}
    (h : ∀ a, r = .ok a → Uses allowed (f a)) : Uses allowed (Prog.attempt r f) := by
  cases r with
  | error e => exact ret _
  | ok a => exact h a rfl

lemma mono {allowed' : C → Prop} (himp : ∀ c, allowed c → allowed' c) (h : Uses allowed p) :
    Uses allowed' p := by
  induction h with
  | done a => exact done a
  | step hc _ ih => exact step (himp _ hc) ih

lemma preserves {P : σ → Prop} (hstep : ∀ c s, allowed c → P s → P (exec c s).2)
    (h : Uses allowed p) : Triple exec P p fun _ => P := by
  induction h with
  | done a => exact fun _ hs => hs
  | step hc _ ih => exact fun s hs => ih _ _ (hstep _ s hc hs)

end Uses

/-! ## Programs that rely on their answers -/

/-- If every answer is as `rely` says, the program issues allowed commands only and ends
with a result in `post`. -/
inductive Honours (rely : (c : C) → R c → Prop) (allowed : C → Prop) (post : α → Prop) :
    Prog R α → Prop
  | done {a : α} (ha : post a) : Honours rely allowed post (.ret a)
  | step {c : C} {k : R c → Prog R α} (hc : allowed c)
      (hk : ∀ r, rely c r → Honours rely allowed post (k r)) :
      Honours rely allowed post (.act c k)

namespace Honours

variable {rely : (c : C) → R c → Prop} {allowed : C → Prop} {post : α → Prop}
  {post' : β → Prop}

lemma ret {a : α} (ha : post a) : Honours rely allowed post (pure a : Prog R α) :=
  done ha

lemma call {c : C} {post : R c → Prop} (hc : allowed c) (hr : ∀ r, rely c r → post r) :
    Honours rely allowed post (Prog.call c : Prog R (R c)) :=
  step hc fun r h => done (hr r h)

lemma act {c : C} {f : R c → Prog R α} (hc : allowed c)
    (hf : ∀ r, rely c r → Honours rely allowed post (f r)) :
    Honours rely allowed post (Prog.call c >>= f) :=
  step hc hf

variable {p : Prog R α}

lemma bind {f : α → Prog R β} (hp : Honours rely allowed post p)
    (hf : ∀ a, post a → Honours rely allowed post' (f a)) :
    Honours rely allowed post' (p >>= f) := by
  induction hp with
  | done ha => exact hf _ ha
  | step hc _ ih => exact step hc ih

lemma mono {allowed' : C → Prop} {post' : α → Prop} (hallowed : ∀ c, allowed c → allowed' c)
    (hpost : ∀ a, post a → post' a) (h : Honours rely allowed post p) :
    Honours rely allowed' post' p := by
  induction h with
  | done ha => exact done (hpost _ ha)
  | step hc _ ih => exact step (hallowed _ hc) ih

lemma uses (hrely : ∀ c r, rely c r) (h : Honours rely allowed post p) : p.Uses allowed := by
  induction h with
  | done _ => exact .done _
  | step hc _ ih => exact .step hc fun r => ih r (hrely _ r)

lemma of_uses (h : Uses allowed p) : Honours rely allowed (fun _ => True) p := by
  induction h with
  | done a => exact done trivial
  | step hc _ ih => exact step hc fun r _ => ih r

lemma of_forall (h : ∀ c, allowed c) (p : Prog R α) : Honours rely allowed (fun _ => True) p := by
  induction p with
  | ret a => exact done trivial
  | act c k ih => exact step (h c) fun r _ => ih r

lemma mapM {f : α → Prog R β} {xs : List α}
    (h : ∀ x ∈ xs, Honours rely allowed (fun _ => True) (f x)) :
    Honours rely allowed (fun _ => True) (Prog.mapM f xs) := by
  induction xs with
  | nil => exact ret trivial
  | cons x xs ih =>
    refine bind (h x List.mem_cons_self) fun _ _ => ?_
    exact bind (ih fun y hy => h y (List.mem_cons_of_mem x hy)) fun _ _ => ret trivial

end Honours

end Prog
end Ax
