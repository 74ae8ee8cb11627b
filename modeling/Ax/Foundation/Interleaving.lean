import Ax.Foundation.Execution
import Ax.Foundation.Program

/-!
# Interleaved programs

Several programs share one state and take turns, one command at a time.  Which
thread is next, and what its command reads from outside, is the label of the
step, so a run is any interleaving.  A command may be blocked: then its thread
cannot take the turn.

A check-then-act program issues its critical commands only right after a result that justified them.
Between the check and the act other threads take turns, so the act may come when its justification
is gone.

Main results:

- Theorem `Pool.eachStep_uncritical`: while no result justifies a critical
  command, only threads that were about to issue one at first can do so.
- Theorem `Pool.eachState_of_honouring`: an invariant that keeps the answers reliable
  and that all allowed commands keep holds along every interleaving.
-/

namespace Ax

structure Pool {C : Type} (R : C → Type) (σ : Type) where
  threads : List (Prog R Unit)
  shared : σ

structure Turn (ρ : Type) where
  thread : Nat
  reading : ρ

variable {C : Type} {R : C → Type} {σ ρ α β : Type}

namespace Pool

def Finished (p : Pool R σ) : Prop :=
  ∀ t ∈ p.threads, t = .ret ()

instance decidableEnded : (t : Prog R Unit) → Decidable (t = .ret ())
  | .ret () => isTrue rfl
  | .act _ _ => isFalse nofun

instance (p : Pool R σ) : Decidable p.Finished :=
  inferInstanceAs (Decidable (∀ t ∈ p.threads, t = .ret ()))

def command (p : Pool R σ) (i : Nat) : Option C :=
  match p.threads[i]? with
  | none | some (.ret _) => none
  | some (.act c _) => some c

variable {i : Nat} {p q : Pool R σ} {a : Turn ρ}

lemma command_eq_some_iff {c : C} :
    p.command i = some c ↔ ∃ k, p.threads[i]? = some (.act c k) := by
  unfold command
  split
  · simp_all
  · simp_all
  · rename_i c' k hthread
    constructor
    · intro h
      cases h
      exact ⟨k, hthread⟩
    · rintro ⟨k', hk'⟩
      cases hthread.symm.trans hk'
      rfl

def next (exec : ρ → σ → (c : C) → Option (R c × σ)) (p : Pool R σ) (a : Turn ρ) :
    Option (Pool R σ) :=
  match p.threads[a.thread]? with
  | none | some (.ret _) => none
  | some (.act c k) =>
    (exec a.reading p.shared c).map fun out => ⟨p.threads.set a.thread (k out.1), out.2⟩

variable {exec : ρ → σ → (c : C) → Option (R c × σ)}

def Step (exec : ρ → σ → (c : C) → Option (R c × σ)) (p : Pool R σ) (a : Turn ρ)
    (q : Pool R σ) : Prop :=
  p.next exec a = some q

lemma step_iff :
    Step exec p a q ↔ ∃ c k out, p.threads[a.thread]? = some (.act c k) ∧
      exec a.reading p.shared c = some out ∧
      q = ⟨p.threads.set a.thread (k out.1), out.2⟩ := by
  unfold Step next
  constructor
  · intro h
    split at h
    · cases h
    · cases h
    · rename_i c k hthread
      obtain ⟨out, hout, hq⟩ := Option.map_eq_some_iff.mp h
      exact ⟨c, k, out, hthread, hout, hq.symm⟩
  · rintro ⟨c, k, out, hthread, hout, rfl⟩
    simp only [hthread, hout, Option.map_some]

lemma Step.deterministic {q' : Pool R σ} (h : Step exec p a q) (h' : Step exec p a q') : q = q' :=
  Option.some.inj (h.symm.trans h')

lemma Step.command_of_ne (h : Step exec p a q) (hi : i ≠ a.thread) :
    q.command i = p.command i := by
  obtain ⟨c, k, out, _, _, rfl⟩ := step_iff.mp h
  unfold command
  rw [List.getElem?_set_ne (Ne.symm hi)]

lemma Step.forall_threads {P : Prog R Unit → Prop} (h : Step exec p a q)
    (hp : ∀ t ∈ p.threads, P t)
    (hnext : ∀ c k out, p.command a.thread = some c → exec a.reading p.shared c = some out →
      P (.act c k) → P (k out.1)) : ∀ t ∈ q.threads, P t := by
  obtain ⟨c, k, out, hthread, hout, rfl⟩ := step_iff.mp h
  intro t ht
  rcases List.mem_or_eq_of_mem_set ht with hold | rfl
  · exact hp t hold
  · have hcommand := command_eq_some_iff.mpr ⟨k, hthread⟩
    exact hnext c k out hcommand hout (hp _ (List.mem_of_getElem? hthread))

lemma issued_of_finished {as : List (Turn ρ)} (hrun : Exec (Step exec) p as q) (hend : q.Finished)
    {c : C} (hi : p.command i = some c) :
    ∃ pre a post m m', as = pre ++ a :: post ∧ Exec (Step exec) p pre m ∧ a.thread = i ∧
      m.command i = some c ∧ Step exec m a m' ∧ Exec (Step exec) m' post q := by
  induction hrun with
  | nil p =>
    obtain ⟨k, hk⟩ := command_eq_some_iff.mp hi
    cases hend _ (List.mem_of_getElem? hk)
  | @cons p m q a as hstep hrest ih =>
    by_cases hturn : a.thread = i
    · exact ⟨[], a, as, p, m, rfl, .nil p, hturn, hi, hstep, hrest⟩
    · -- Another thread's turn: the command is still to come.
      have hwaits : m.command i = some c := by
        rw [hstep.command_of_ne (Ne.symm hturn)]
        exact hi
      obtain ⟨pre, b, post, n, n', rfl, hpre, hrest'⟩ := ih hend hwaits
      exact ⟨a :: pre, b, post, n, n', rfl, .cons hstep hpre, hrest'⟩

end Pool

/-! ## Check, then act -/

/-- Critical commands are issued only right after a result that justifies them;
`ok` says whether the program may start with one. -/
inductive Guarded (critical : C → Prop) (justifies : (c : C) → R c → Prop) :
    Prop → Prog R α → Prop
  | done {ok : Prop} (a : α) : Guarded critical justifies ok (.ret a)
  | step {ok : Prop} {c : C} {k : R c → Prog R α} (hc : critical c → ok)
      (hk : ∀ r, Guarded critical justifies (justifies c r) (k r)) :
      Guarded critical justifies ok (.act c k)

namespace Guarded

variable {critical : C → Prop} {justifies : (c : C) → R c → Prop} {ok ok' : Prop}
  {p : Prog R α} {c : C}

lemma mono (himp : ok → ok') (h : Guarded critical justifies ok p) :
    Guarded critical justifies ok' p := by
  cases h with
  | done a => exact done a
  | step hc hk => exact step (himp ∘ hc) hk

lemma ret (a : α) : Guarded critical justifies ok (pure a : Prog R α) :=
  done a

lemma call (hc : critical c → ok) : Guarded critical justifies ok (Prog.call c : Prog R (R c)) :=
  step hc fun r => done r

lemma check {f : R c → Prog R α} (hc : critical c → ok)
    (hf : ∀ r, Guarded critical justifies (justifies c r) (f r)) :
    Guarded critical justifies ok (Prog.call c >>= f) :=
  step hc hf

lemma bind {f : α → Prog R β} (hp : Guarded critical justifies ok p)
    (hf : ∀ a, Guarded critical justifies False (f a)) :
    Guarded critical justifies ok (p >>= f) := by
  induction hp with
  | done a => exact (hf a).mono False.elim
  | step hc _ ih => exact step hc ih

lemma mapM {f : α → Prog R β} {xs : List α}
    (h : ∀ x ∈ xs, Guarded critical justifies False (f x)) :
    Guarded critical justifies False (Prog.mapM f xs) := by
  induction xs with
  | nil => exact ret _
  | cons x xs ih =>
    refine bind (h x List.mem_cons_self) fun _ => ?_
    exact bind (ih fun y hy => h y (List.mem_cons_of_mem x hy)) fun _ => ret _

lemma of_uses (h : p.Uses fun c => ¬critical c) : Guarded critical justifies ok p := by
  induction h generalizing ok with
  | done a => exact done a
  | step hc _ ih => exact step (fun hcrit => absurd hcrit hc) fun r => ih r

lemma uses (h : Guarded critical (fun _ _ => False) False p) : p.Uses fun c => ¬critical c := by
  induction p with
  | ret a => exact .done a
  | act c k ih =>
    cases h with
    | step hc hk => exact .step hc fun r => ih r (hk r)

lemma not_critical {k : R c → Prog R α} (h : Guarded critical justifies False (.act c k)) :
    ¬critical c := by
  cases h with
  | step hc _ => exact hc

lemma rest {k : R c → Prog R α} (h : Guarded critical justifies ok (.act c k)) (r : R c) :
    Guarded critical justifies (justifies c r) (k r) := by
  cases h with
  | step _ hk => exact hk r

lemma of_not_critical (h : Guarded critical justifies ok p)
    (hstart : ∀ c k, p = .act c k → ¬critical c) : Guarded critical justifies False p := by
  cases h with
  | done a => exact done a
  | step _ hk => exact step (hstart _ _ rfl) hk

end Guarded

namespace Pool

variable {exec : ρ → σ → (c : C) → Option (R c × σ)}
  {critical : C → Prop} {justifies : (c : C) → R c → Prop}

def Unjustified (exec : ρ → σ → (c : C) → Option (R c × σ)) (justifies : (c : C) → R c → Prop)
    (p : Pool R σ) (a : Turn ρ) : Prop :=
  ∀ c out, p.command a.thread = some c → exec a.reading p.shared c = some out → ¬justifies c out.1

def Uncritical (critical : C → Prop) (p : Pool R σ) (a : Turn ρ) : Prop :=
  ∀ c, p.command a.thread = some c → ¬critical c

variable {p : Pool R σ}

lemma Step.guarded {q : Pool R σ} {a : Turn ρ} (h : Step exec p a q)
    (hp : ∀ t ∈ p.threads, Guarded critical justifies True t) :
    ∀ t ∈ q.threads, Guarded critical justifies True t :=
  h.forall_threads hp fun _ _ out _ _ hact => (hact.rest out.1).mono fun _ => trivial

lemma Step.unpermitted {q : Pool R σ} {a : Turn ρ} (h : Step exec p a q)
    (hp : ∀ t ∈ p.threads, Guarded critical justifies False t)
    (hunjustified : Unjustified exec justifies p a) :
    ∀ t ∈ q.threads, Guarded critical justifies False t :=
  h.forall_threads hp fun c _ out hc hout hact =>
    (hact.rest out.1).mono (hunjustified c out hc hout)

/-- While no result justifies a critical command, threads that were not about to
issue one at first do not issue any. -/
theorem eachStep_uncritical {as : List (Turn ρ)}
    (hp : ∀ t ∈ p.threads, Guarded critical justifies False t)
    (hunjustified : Exec.EachStep (Step exec) (Unjustified exec justifies) p as) :
    Exec.EachStep (Step exec) (Uncritical critical) p as := by
  have hstates : Exec.EachState (Step exec)
      (fun m => ∀ t ∈ m.threads, Guarded critical justifies False t) p as :=
    Exec.eachState_of_eachStep (fun _ _ _ hstep hm hu => hstep.unpermitted hm hu) hp hunjustified
  intro pre a post m has hpre c hc
  obtain ⟨k, hk⟩ := command_eq_some_iff.mp hc
  exact (hstates pre (a :: post) m has hpre _ (List.mem_of_getElem? hk)).not_critical

end Pool

/-! ## Rely and guarantee -/

namespace Pool

variable {exec : ρ → σ → (c : C) → Option (R c × σ)} {rely : (c : C) → R c → Prop}
  {allowed : Nat → C → Prop}

def Honouring (rely : (c : C) → R c → Prop) (allowed : Nat → C → Prop) (p : Pool R σ) : Prop :=
  ∀ (i : Nat) (t : Prog R Unit), p.threads[i]? = some t →
    t.Honours rely (allowed i) fun _ => True

variable {p : Pool R σ}

lemma Honouring.command (h : p.Honouring rely allowed) {i : Nat} {c : C}
    (hc : p.command i = some c) : allowed i c := by
  obtain ⟨k, hk⟩ := command_eq_some_iff.mp hc
  cases h i _ hk with
  | step hallowed _ => exact hallowed

lemma Step.honouring {q : Pool R σ} {a : Turn ρ} (h : Step exec p a q)
    (hp : p.Honouring rely allowed)
    (hrely : ∀ c out, p.command a.thread = some c → exec a.reading p.shared c = some out →
      q.shared = out.2 → rely c out.1) : q.Honouring rely allowed := by
  obtain ⟨c, k, out, hthread, hout, rfl⟩ := step_iff.mp h
  intro i t ht
  rw [List.getElem?_set] at ht
  split at ht
  · rename_i hi
    split at ht
    · obtain rfl := Option.some.inj ht
      subst hi
      cases hp a.thread _ hthread with
      | step _ hk => exact hk _ (hrely c out (command_eq_some_iff.mpr ⟨k, hthread⟩) hout rfl)
    · cases ht
  · exact hp i t ht

/-- If under an invariant every allowed command answers reliably and keeps the invariant,
then the invariant holds along every interleaving of the threads. -/
theorem eachState_of_honouring {P : σ → Prop} {cond : Pool R σ → Turn ρ → Prop}
    (hstep : ∀ p a c out, cond p a → P p.shared → p.command a.thread = some c →
      allowed a.thread c → exec a.reading p.shared c = some out → rely c out.1 ∧ P out.2)
    {as : List (Turn ρ)} (hp : p.Honouring rely allowed) (hP : P p.shared)
    (hcond : Exec.EachStep (Step exec) cond p as) :
    Exec.EachState (Step exec) (fun m => m.Honouring rely allowed ∧ P m.shared) p as := by
  refine Exec.eachState_of_eachStep (fun m a q hturn hm hc => ?_) ⟨hp, hP⟩ hcond
  have hanswer : ∀ c out, m.command a.thread = some c → exec a.reading m.shared c = some out →
      rely c out.1 ∧ P out.2 :=
    fun c out hcommand hout => hstep m a c out hc hm.2 hcommand (hm.1.command hcommand) hout
  refine ⟨hturn.honouring hm.1 fun c out hcommand hout _ => (hanswer c out hcommand hout).1, ?_⟩
  obtain ⟨c, k, out, hthread, hout, rfl⟩ := step_iff.mp hturn
  exact (hanswer c out (command_eq_some_iff.mpr ⟨k, hthread⟩) hout).2

end Pool
end Ax
