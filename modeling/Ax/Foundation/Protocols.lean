import Ax.Foundation.Interleaving

/-!
# Programs that follow a protocol

A protocol is a state machine that watches a program: it says which commands the
program may issue in each state, and to which state an answer leads.  A program that
follows a protocol need not know its state, and other threads may take turns between
any two of its commands.

Main results:

- Theorems `Follows.bind`, `Follows.mapM` and `Follows.of_uses`: a program follows a
  protocol part by part.
- Theorem `Pool.Led.step`: a thread that follows a protocol goes on to do so, whoever
  takes the turn.
-/

namespace Ax

/-- A state machine over commands and their answers, and the answers that it is for. -/
structure Protocol {C : Type} (R : C → Type) (S : Type) where
  rely : (c : C) → R c → Prop
  allowed : S → C → Prop
  next : S → (c : C) → R c → S

variable {C : Type} {R : C → Type} {S α β σ ρ : Type}

namespace Protocol

/-- The program follows the protocol from the given state, and ends with a result and a
state in `post`. -/
inductive Follows (π : Protocol R S) (post : α → S → Prop) : S → Prog R α → Prop
  | done {s : S} {a : α} (h : post a s) : Follows π post s (.ret a)
  | step {s : S} {c : C} {k : R c → Prog R α} (hc : π.allowed s c)
      (hk : ∀ r, π.rely c r → Follows π post (π.next s c r) (k r)) : Follows π post s (.act c k)

structure Ignores (π : Protocol R S) (c : C) : Prop where
  allowed : ∀ s, π.allowed s c
  next : ∀ s r, π.next s c r = s

namespace Follows

variable {π : Protocol R S} {post : α → S → Prop} {post' : β → S → Prop} {s : S}

lemma ret {a : α} (h : post a s) : π.Follows post s (pure a : Prog R α) :=
  done h

variable {c : C} {p : Prog R α}

lemma act {f : R c → Prog R α} (hc : π.allowed s c)
    (hf : ∀ r, π.rely c r → π.Follows post (π.next s c r) (f r)) :
    π.Follows post s (Prog.call c >>= f) :=
  step hc hf

lemma bind {f : α → Prog R β} (hp : π.Follows post s p)
    (hf : ∀ a t, post a t → π.Follows post' t (f a)) : π.Follows post' s (p >>= f) := by
  induction hp with
  | done h => exact hf _ _ h
  | step hc _ ih => exact step hc ih

/-- A loop over a list, with an invariant about the elements to come. -/
theorem mapM {I : List α → S → Prop} {f : α → Prog R β}
    (hstep : ∀ x xs s, I (x :: xs) s → π.Follows (fun _ => I xs) s (f x)) {xs : List α}
    (hs : I xs s) : π.Follows (fun _ => I []) s (Prog.mapM f xs) := by
  induction xs generalizing s with
  | nil => exact ret hs
  | cons x xs ih =>
    refine bind (hstep x xs s hs) fun _ t ht => ?_
    exact bind (ih ht) fun _ t' ht' => ret ht'

/-- A program without commands that concern the protocol. -/
theorem of_uses (h : p.Uses π.Ignores) : π.Follows (fun _ t => t = s) s p := by
  induction h with
  | done a => exact done rfl
  | step hc _ ih =>
    refine step (hc.allowed s) fun r _ => ?_
    rw [hc.next s r]
    exact ih r

lemma mono {post' : α → S → Prop} (himp : ∀ a t, post a t → post' a t) (h : π.Follows post s p) :
    π.Follows post' s p := by
  induction h with
  | done h => exact done (himp _ _ h)
  | step hc _ ih => exact step hc ih

/-- Without the states, the protocol is about answers and commands only. -/
theorem honours {allowed : C → Prop} (hallowed : ∀ s c, π.allowed s c → allowed c)
    (h : π.Follows post s p) : p.Honours π.rely allowed fun _ => True := by
  induction h with
  | done _ => exact .done trivial
  | step hc _ ih => exact .step (hallowed _ _ hc) ih

lemma allowed {k : R c → Prog R α} (h : π.Follows post s (.act c k)) : π.allowed s c := by
  cases h with
  | step hc _ => exact hc

lemma rest {k : R c → Prog R α} (h : π.Follows post s (.act c k)) {r : R c} (hr : π.rely c r) :
    π.Follows post (π.next s c r) (k r) := by
  cases h with
  | step _ hk => exact hk r hr

end Follows
end Protocol

namespace Pool

variable {exec : ρ → σ → (c : C) → Option (R c × σ)} {π : Protocol R S} {others : C → Prop}

structure Led (π : Protocol R S) (others : C → Prop) (p : Pool R σ) (s : S) : Prop where
  first : ∀ t, p.threads[0]? = some t → π.Follows (fun _ _ => True) s t
  rest : ∀ i t, p.threads[i + 1]? = some t → t.Uses others

/-- In a turn of the first thread the protocol takes a step; in the turns of the others it
waits. -/
theorem Led.step {p q : Pool R σ} {s : S} {a : Turn ρ} (hled : p.Led π others s)
    (hstep : Step exec p a q)
    (hrely : ∀ c out, p.command a.thread = some c → exec a.reading p.shared c = some out →
      π.rely c out.1) :
    ∃ c out, p.command a.thread = some c ∧ exec a.reading p.shared c = some out ∧
      q.shared = out.2 ∧
      (a.thread = 0 ∧ π.allowed s c ∧ q.Led π others (π.next s c out.1) ∨
        a.thread ≠ 0 ∧ others c ∧ q.Led π others s) := by
  obtain ⟨c, k, out, hthread, hout, rfl⟩ := step_iff.mp hstep
  have hcommand : p.command a.thread = some c := command_eq_some_iff.mpr ⟨k, hthread⟩
  refine ⟨c, out, hcommand, hout, rfl, ?_⟩
  have hlt : a.thread < p.threads.length := (List.getElem?_eq_some_iff.mp hthread).1
  by_cases hfirst : a.thread = 0
  · rw [hfirst] at hthread hlt
    have hfollows := hled.first _ hthread
    refine .inl ⟨hfirst, hfollows.allowed, ?_, ?_⟩
    · intro t ht
      rw [hfirst, List.getElem?_set_self hlt] at ht
      obtain rfl := Option.some.inj ht
      exact hfollows.rest (hrely c out hcommand hout)
    · intro i t ht
      rw [hfirst, List.getElem?_set_ne (Nat.succ_ne_zero i).symm] at ht
      exact hled.rest i t ht
  · obtain ⟨j, hj⟩ := Nat.exists_eq_succ_of_ne_zero hfirst
    rw [hj] at hthread hlt
    cases hled.rest j _ hthread with
    | step hc hk =>
      refine .inr ⟨hfirst, hc, ?_, ?_⟩
      · intro t ht
        rw [List.getElem?_set_ne hfirst] at ht
        exact hled.first t ht
      · intro i t ht
        rw [hj] at ht
        by_cases hi : i = j
        · rw [hi, List.getElem?_set_self hlt] at ht
          obtain rfl := Option.some.inj ht
          exact hk out.1
        · rw [List.getElem?_set_ne fun h => hi (Nat.succ.inj h).symm] at ht
          exact hled.rest i t ht

end Pool
end Ax
