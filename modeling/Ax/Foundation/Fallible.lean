import Ax.Foundation.Program
import Ax.Foundation.Result

/-!
# Programs that may fail

A program over atomic commands that stops at its first error.  Which commands such a program
issues in an execution, with which result it ends and in which state, is one relation, `Runs`;
its inversion lemmas take a program apart along its text.

Main results:

- Theorem `Uses.passes`: what every allowed command preserves holds in every state passed.
- Theorem `Honours.runs`: a program whose commands depend on what it is answered, in states
  with an invariant.
-/

namespace Ax

/-- Programs over commands that may end with an error. -/
abbrev Fallible {C : Type} (R : C → Type) (ε : Type) : Type → Type :=
  ExceptT ε (Prog R)

namespace Prog

variable {C : Type} {R : C → Type} {α β ε δ σ κ : Type}

def commands (exec : (c : C) → σ → R c × σ) : Prog R α → σ → List C
  | .ret _, _ => []
  | .act c k, s => c :: (k (exec c s).1).commands exec (exec c s).2

/-- The states in which an execution is before each command, and at its end. -/
def passed (exec : (c : C) → σ → R c × σ) : Prog R α → σ → List σ
  | .ret _, s => [s]
  | .act c k, s => s :: (k (exec c s).1).passed exec (exec c s).2

/-- The program ends with a result in a state after some commands. -/
structure Runs (exec : (c : C) → σ → R c × σ) (p : Prog R α) (s : σ) (a : α) (t : σ)
    (l : List C) : Prop where
  run_eq : p.run exec s = (a, t)
  commands_eq : p.commands exec s = l

variable {exec : (c : C) → σ → R c × σ} {s t u : σ} {l : List C}

lemma runs_run (p : Prog R α) (s : σ) :
    Runs exec p s (p.run exec s).1 (p.run exec s).2 (p.commands exec s) :=
  ⟨rfl, rfl⟩

lemma runs_of_fst {p : Prog R α} {a : α} (h : (p.run exec s).1 = a) :
    Runs exec p s a (p.run exec s).2 (p.commands exec s) :=
  ⟨Prod.ext h rfl, rfl⟩

lemma runs_pure {a b : α} : Runs exec (pure a : Prog R α) s b t l ↔ b = a ∧ t = s ∧ l = [] := by
  constructor
  · rintro ⟨hrun, rfl⟩
    obtain ⟨rfl, rfl⟩ := Prod.mk.inj hrun
    exact ⟨rfl, rfl, rfl⟩
  · rintro ⟨rfl, rfl, rfl⟩
    exact ⟨rfl, rfl⟩

lemma runs_call {c : C} {r : R c} :
    Runs exec (call c : Prog R (R c)) s r t l ↔
      r = (exec c s).1 ∧ t = (exec c s).2 ∧ l = [c] := by
  constructor
  · rintro ⟨hrun, rfl⟩
    rw [run_call] at hrun
    exact ⟨congrArg Prod.fst hrun.symm, congrArg Prod.snd hrun.symm, rfl⟩
  · rintro ⟨rfl, rfl, rfl⟩
    exact ⟨rfl, rfl⟩

lemma commands_bind (p : Prog R α) (f : α → Prog R β) (s : σ) :
    (p >>= f).commands exec s =
      p.commands exec s ++ (f (p.run exec s).1).commands exec (p.run exec s).2 := by
  induction p generalizing s with
  | ret a => rfl
  | act c k ih => exact congrArg (c :: ·) (ih (exec c s).1 (exec c s).2)

lemma runs_bind {p : Prog R α} {f : α → Prog R β} {b : β} :
    Runs exec (p >>= f) s b u l ↔
      ∃ a t l₁ l₂, Runs exec p s a t l₁ ∧ Runs exec (f a) t b u l₂ ∧ l = l₁ ++ l₂ := by
  constructor
  · rintro ⟨hrun, rfl⟩
    refine ⟨_, _, _, _, runs_run p s, ⟨?_, rfl⟩, commands_bind p f s⟩
    rw [← run_bind, hrun]
  · rintro ⟨a, t, l₁, l₂, ⟨hrun, rfl⟩, ⟨hrun', rfl⟩, rfl⟩
    refine ⟨?_, ?_⟩
    · rw [run_bind, hrun, hrun']
    · rw [commands_bind, hrun]

/-! ## Failure -/

def raise (wrap : δ → ε) (r : Except δ α) : Fallible R ε α :=
  ExceptT.mk (pure (r.mapError wrap))

/-- One command that always has an answer. -/
def ask (c : C) : Fallible R ε (R c) :=
  ExceptT.mk (call c >>= fun r => pure (.ok r))

def within (wrap : δ → ε) (p : Fallible R δ α) : Fallible R ε α :=
  ExceptT.mk (p.run >>= fun r => pure (r.mapError wrap))

/-- A program that is only run under a condition. -/
def whenever (b : Bool) (p : Fallible R ε Unit) : Fallible R ε Unit :=
  if b then p else pure ()

end Prog

namespace Fallible

open Prog

variable {C : Type} {R : C → Type} {α β ε δ σ κ : Type}
  {exec : (c : C) → σ → R c × σ} {s t u : σ} {l : List C}

/-- An execution of a fallible program. -/
abbrev Runs (exec : (c : C) → σ → R c × σ) (p : Fallible R ε α) (s : σ) (r : Except ε α) (t : σ)
    (l : List C) : Prop :=
  Prog.Runs exec p.run s r t l

variable {a : α} {r : Except ε α} {wrap : δ → ε} {p : Fallible R ε α} {f : κ → Fallible R ε β}
  {xs : List κ} {ys : List (κ × β)}

lemma runs_pure : Runs exec (pure a : Fallible R ε α) s r t l ↔ r = .ok a ∧ t = s ∧ l = [] :=
  Prog.runs_pure

lemma runs_throw {e : ε} :
    Runs exec (throw e : Fallible R ε α) s r t l ↔ r = .error e ∧ t = s ∧ l = [] :=
  Prog.runs_pure

lemma runs_raise {x : Except δ α} :
    Runs exec (raise wrap x : Fallible R ε α) s r t l ↔
      r = x.mapError wrap ∧ t = s ∧ l = [] :=
  Prog.runs_pure

lemma runs_ask {c : C} {r : Except ε (R c)} :
    Runs exec (ask c : Fallible R ε (R c)) s r t l ↔
      r = .ok (exec c s).1 ∧ t = (exec c s).2 ∧ l = [c] := by
  constructor
  · intro h
    obtain ⟨a, t, l₁, l₂, hcall, hpure, rfl⟩ := Prog.runs_bind.mp h
    obtain ⟨rfl, rfl, rfl⟩ := runs_call.mp hcall
    obtain ⟨rfl, rfl, rfl⟩ := Prog.runs_pure.mp hpure
    exact ⟨rfl, rfl, rfl⟩
  · rintro ⟨rfl, rfl, rfl⟩
    exact Prog.runs_bind.mpr ⟨_, _, _, _, runs_call.mpr ⟨rfl, rfl, rfl⟩,
      Prog.runs_pure.mpr ⟨rfl, rfl, rfl⟩, rfl⟩

lemma runs_within {p : Fallible R δ α} :
    Runs exec (within wrap p) s r t l ↔ ∃ x, r = x.mapError wrap ∧ Runs exec p s x t l := by
  constructor
  · intro h
    obtain ⟨x, t, l₁, l₂, hp, hpure, rfl⟩ := Prog.runs_bind.mp h
    obtain ⟨rfl, rfl, rfl⟩ := Prog.runs_pure.mp hpure
    exact ⟨x, rfl, by rwa [List.append_nil]⟩
  · rintro ⟨x, rfl, hp⟩
    exact Prog.runs_bind.mpr ⟨x, t, l, [], hp, Prog.runs_pure.mpr ⟨rfl, rfl, rfl⟩,
      (List.append_nil l).symm⟩

lemma runs_bind {f : α → Fallible R ε β} {r : Except ε β} :
    Runs exec (p >>= f) s r u l ↔
      (∃ e, r = .error e ∧ Runs exec p s (.error e) u l) ∨
        ∃ a t l₁ l₂, Runs exec p s (.ok a) t l₁ ∧ Runs exec (f a) t r u l₂ ∧ l = l₁ ++ l₂ := by
  constructor
  · intro h
    obtain ⟨x, t, l₁, l₂, hp, hf, rfl⟩ := Prog.runs_bind.mp h
    cases x with
    | error e =>
      obtain ⟨rfl, rfl, rfl⟩ := Prog.runs_pure.mp hf
      exact .inl ⟨e, rfl, by rwa [List.append_nil]⟩
    | ok a => exact .inr ⟨a, t, l₁, l₂, hp, hf, rfl⟩
  · rintro (⟨e, rfl, hp⟩ | ⟨a, t, l₁, l₂, hp, hf, rfl⟩)
    · exact Prog.runs_bind.mpr ⟨.error e, u, l, [], hp, Prog.runs_pure.mpr ⟨rfl, rfl, rfl⟩,
        (List.append_nil l).symm⟩
    · exact Prog.runs_bind.mpr ⟨.ok a, t, l₁, l₂, hp, hf, rfl⟩

lemma runs_ask_bind {c : C} {f : R c → Fallible R ε α} :
    Runs exec (ask c >>= f) s r t l ↔
      ∃ l', Runs exec (f (exec c s).1) (exec c s).2 r t l' ∧ l = c :: l' := by
  constructor
  · intro h
    rcases runs_bind.mp h with ⟨e, -, hask⟩ | ⟨a, u, l₁, l₂, hask, hf, rfl⟩
    · obtain ⟨herror, -, -⟩ := runs_ask.mp hask
      cases herror
    · obtain ⟨ha, rfl, rfl⟩ := runs_ask.mp hask
      obtain rfl := Except.ok.inj ha
      exact ⟨l₂, hf, rfl⟩
  · rintro ⟨l', hf, rfl⟩
    exact runs_bind.mpr (.inr ⟨_, _, [c], l', runs_ask.mpr ⟨rfl, rfl, rfl⟩, hf, rfl⟩)

lemma forall_commands_of_bind {P : C → Prop} {f : α → Fallible R ε β} {r : Except ε β}
    (h : Runs exec (p >>= f) s r u l) (hp : ∀ x t l₁, Runs exec p s x t l₁ → ∀ c ∈ l₁, P c)
    (hf : ∀ a t l₁ l₂, Runs exec p s (.ok a) t l₁ → Runs exec (f a) t r u l₂ → ∀ c ∈ l₂, P c) :
    ∀ c ∈ l, P c := by
  rcases runs_bind.mp h with ⟨e, -, hp'⟩ | ⟨a, t, l₁, l₂, hp', hf', rfl⟩
  · exact hp _ _ _ hp'
  · exact List.forall_mem_append.mpr ⟨hp _ _ _ hp', hf a t l₁ l₂ hp' hf'⟩

lemma runs_bind_ok {f : α → Fallible R ε β} {b : β} :
    Runs exec (p >>= f) s (.ok b) u l ↔
      ∃ a t l₁ l₂, Runs exec p s (.ok a) t l₁ ∧ Runs exec (f a) t (.ok b) u l₂ ∧
        l = l₁ ++ l₂ := by
  rw [runs_bind]
  constructor
  · rintro (⟨e, h, -⟩ | h)
    · cases h
    · exact h
  · exact .inr

lemma runs_pure_ok {b : α} :
    Runs exec (pure a : Fallible R ε α) s (.ok b) t l ↔ b = a ∧ t = s ∧ l = [] := by
  rw [runs_pure, Except.ok.injEq]

lemma runs_bind_pure {f : α → β} {b : β} :
    Runs exec (p >>= fun a => pure (f a)) s (.ok b) t l ↔
      ∃ a, Runs exec p s (.ok a) t l ∧ b = f a := by
  rw [runs_bind_ok]
  constructor
  · rintro ⟨a, t, l₁, l₂, hp, hpure, rfl⟩
    obtain ⟨rfl, rfl, rfl⟩ := runs_pure_ok.mp hpure
    exact ⟨a, by rwa [List.append_nil], rfl⟩
  · rintro ⟨a, hp, rfl⟩
    exact ⟨a, t, l, [], hp, runs_pure.mpr ⟨rfl, rfl, rfl⟩, (List.append_nil l).symm⟩

lemma runs_raise_ok {x : Except δ α} :
    Runs exec (raise wrap x : Fallible R ε α) s (.ok a) t l ↔ x = .ok a ∧ t = s ∧ l = [] := by
  rw [runs_raise, eq_comm (a := Except.ok a), Result.mapError_eq_ok]

lemma runs_within_ok {p : Fallible R δ α} :
    Runs exec (within wrap p) s (.ok a) t l ↔ Runs exec p s (.ok a) t l := by
  rw [runs_within]
  constructor
  · rintro ⟨x, hx, hp⟩
    rwa [← Result.mapError_eq_ok.mp hx.symm]
  · intro hp
    exact ⟨.ok a, rfl, hp⟩

lemma runs_whenever {b : Bool} {p : Fallible R ε Unit} {r : Except ε Unit} :
    Runs exec (whenever b p) s r t l ↔
      (b = true ∧ Runs exec p s r t l) ∨ (b = false ∧ r = .ok () ∧ t = s ∧ l = []) := by
  cases b with
  | false => simpa [whenever] using runs_pure
  | true => simp [whenever]

/-! ## Loops -/

def traverse (f : κ → Fallible R ε β) : List κ → Fallible R ε (List (κ × β))
  | [] => pure []
  | x :: xs => do
      let y ← f x
      let ys ← traverse f xs
      return (x, y) :: ys

lemma runs_traverse_cons {x : κ} :
    Runs exec (traverse f (x :: xs)) s (.ok ys) u l ↔
      ∃ y t l₁ rest l₂, Runs exec (f x) s (.ok y) t l₁ ∧
        Runs exec (traverse f xs) t (.ok rest) u l₂ ∧ ys = (x, y) :: rest ∧ l = l₁ ++ l₂ := by
  rw [traverse, runs_bind_ok]
  constructor
  · rintro ⟨y, t, l₁, l₂, hx, h, rfl⟩
    obtain ⟨rest, hrest, hys⟩ := runs_bind_pure.mp h
    exact ⟨y, t, l₁, rest, l₂, hx, hrest, hys, rfl⟩
  · rintro ⟨y, t, l₁, rest, l₂, hx, hrest, rfl, rfl⟩
    exact ⟨y, t, l₁, l₂, hx, runs_bind_pure.mpr ⟨rest, hrest, rfl⟩, rfl⟩

lemma map_fst_of_traverse (h : Runs exec (traverse f xs) s (.ok ys) u l) :
    ys.map Prod.fst = xs := by
  induction xs generalizing s ys l with
  | nil =>
    obtain ⟨rfl, -, -⟩ := runs_pure_ok.mp h
    rfl
  | cons x xs ih =>
    obtain ⟨y, t, l₁, rest, l₂, -, hrest, rfl, -⟩ := runs_traverse_cons.mp h
    rw [List.map_cons, ih hrest]

/-- The visit of one element of a loop, between those before and those after it. -/
theorem runs_traverse_mem {x : κ} (h : Runs exec (traverse f xs) s (.ok ys) u l) (hx : x ∈ xs) :
    ∃ pre post zs y zs' t v l₁ l₂ l₃, xs = pre ++ x :: post ∧
      Runs exec (traverse f pre) s (.ok zs) t l₁ ∧ Runs exec (f x) t (.ok y) v l₂ ∧
      Runs exec (traverse f post) v (.ok zs') u l₃ ∧ ys = zs ++ (x, y) :: zs' ∧
      l = l₁ ++ l₂ ++ l₃ := by
  induction xs generalizing s ys l with
  | nil => cases hx
  | cons x' xs ih =>
    obtain ⟨y', t, l₁, rest, l₂, hfirst, hrest, rfl, rfl⟩ := runs_traverse_cons.mp h
    rcases List.mem_cons.mp hx with rfl | hx
    · exact ⟨[], xs, [], y', rest, s, t, [], l₁, l₂, rfl, runs_pure.mpr ⟨rfl, rfl, rfl⟩,
        hfirst, hrest, rfl, rfl⟩
    · obtain ⟨pre, post, zs, y, zs', v, w, l₃, l₄, l₅, rfl, hpre, hmid, hpost, rfl, rfl⟩ :=
        ih hrest hx
      refine ⟨x' :: pre, post, (x', y') :: zs, y, zs', v, w, l₁ ++ l₃, l₄, l₅, rfl,
        runs_traverse_cons.mpr ⟨y', t, l₁, zs, l₃, hfirst, hpre, rfl, rfl⟩, hmid, hpost, rfl, ?_⟩
      simp only [List.append_assoc]

/-- What every visit keeps, a loop keeps; what every visit then gives, all results of the loop
have. -/
theorem forall_of_traverse {I : σ → Prop} {P : κ → β → Prop}
    (hstep : ∀ x ∈ xs, ∀ s y t l, I s → Runs exec (f x) s (.ok y) t l → I t ∧ P x y)
    (h : Runs exec (traverse f xs) s (.ok ys) u l) (hs : I s) :
    I u ∧ ∀ entry ∈ ys, P entry.1 entry.2 := by
  induction xs generalizing s ys l with
  | nil =>
    obtain ⟨rfl, rfl, -⟩ := runs_pure_ok.mp h
    exact ⟨hs, by simp⟩
  | cons x xs ih =>
    obtain ⟨y, t, l₁, rest, l₂, hfirst, hrest, rfl, -⟩ := runs_traverse_cons.mp h
    obtain ⟨ht, hy⟩ := hstep x List.mem_cons_self s y t l₁ hs hfirst
    obtain ⟨hu, hys⟩ := ih (fun x hx => hstep x (List.mem_cons_of_mem _ hx)) hrest ht
    exact ⟨hu, List.forall_mem_cons.mpr ⟨hy, hys⟩⟩

lemma forall_results {P : κ → β → Prop}
    (hstep : ∀ x ∈ xs, ∀ s y t l, Runs exec (f x) s (.ok y) t l → P x y)
    (h : Runs exec (traverse f xs) s (.ok ys) u l) : ∀ entry ∈ ys, P entry.1 entry.2 :=
  (forall_of_traverse (I := fun _ => True)
    (fun x hx s y t l _ hrun => ⟨trivial, hstep x hx s y t l hrun⟩) h trivial).2

lemma run_of_result (h : Runs exec (traverse f xs) s (.ok ys) u l) {result : κ × β}
    (hresult : result ∈ ys) :
    result.1 ∈ xs ∧ ∃ s t l, Runs exec (f result.1) s (.ok result.2) t l :=
  forall_results (P := fun x y => x ∈ xs ∧ ∃ s t l, Runs exec (f x) s (.ok y) t l)
    (fun _ hx s _ t l hrun => ⟨hx, s, t, l, hrun⟩) h result hresult

/-! ## Restricted commands -/

abbrev Uses (allowed : C → Prop) (p : Fallible R ε α) : Prop :=
  Prog.Uses allowed p.run

/-- If every answer is as `rely` says, every command a fallible program issues is allowed. -/
abbrev Honours (rely : (c : C) → R c → Prop) (allowed : C → Prop) (p : Fallible R ε α) : Prop :=
  Prog.Honours rely allowed (fun _ => True) p.run

section Uses

variable {allowed : C → Prop}

lemma uses_pure (a : α) : Uses allowed (pure a : Fallible R ε α) :=
  .done _

lemma uses_throw (e : ε) : Uses allowed (throw e : Fallible R ε α) :=
  .done _

lemma uses_raise (wrap : δ → ε) (x : Except δ α) : Uses allowed (raise wrap x : Fallible R ε α) :=
  .done _

lemma uses_ask {c : C} (hc : allowed c) : Uses allowed (ask c : Fallible R ε (R c)) :=
  .step hc fun _ => .done _

lemma uses_within {wrap : δ → ε} {p : Fallible R δ α} (hp : Uses allowed p) :
    Uses allowed (within wrap p) :=
  Prog.Uses.bind hp fun _ => .done _

lemma uses_whenever {b : Bool} {p : Fallible R ε Unit} (hp : b = true → Uses allowed p) :
    Uses allowed (whenever b p) := by
  unfold whenever
  split
  · exact hp ‹_›
  · exact uses_pure _

lemma uses_bind {p : Fallible R ε α} {f : α → Fallible R ε β} (hp : Uses allowed p)
    (hf : ∀ a, Uses allowed (f a)) : Uses allowed (p >>= f) := by
  refine Prog.Uses.bind hp fun x => ?_
  cases x with
  | error e => exact .done _
  | ok a => exact hf a

lemma uses_raise_bind {wrap : δ → ε} {x : Except δ α} {f : α → Fallible R ε β}
    (hf : ∀ a, x = .ok a → Uses allowed (f a)) : Uses allowed (raise wrap x >>= f) := by
  cases x with
  | error e => exact .done _
  | ok a => exact hf a rfl

lemma uses_traverse {f : κ → Fallible R ε β} {xs : List κ} (h : ∀ x ∈ xs, Uses allowed (f x)) :
    Uses allowed (traverse f xs) := by
  induction xs with
  | nil => exact uses_pure _
  | cons x xs ih =>
    refine uses_bind (h x List.mem_cons_self) fun _ => ?_
    exact uses_bind (ih fun y hy => h y (List.mem_cons_of_mem x hy)) fun _ => uses_pure _

end Uses

section Honours

variable {rely : (c : C) → R c → Prop} {allowed : C → Prop}

lemma honours_of_uses {p : Fallible R ε α} (h : Uses allowed p) : Honours rely allowed p :=
  Prog.Honours.of_uses h

lemma honours_ask_bind {c : C} {f : R c → Fallible R ε α} (hc : allowed c)
    (hf : ∀ r, rely c r → Honours rely allowed (f r)) : Honours rely allowed (ask c >>= f) :=
  .step hc hf

lemma honours_within {wrap : δ → ε} {p : Fallible R δ α} (hp : Honours rely allowed p) :
    Honours rely allowed (within wrap p) :=
  Prog.Honours.bind hp fun _ _ => .done trivial

lemma honours_whenever {b : Bool} {p : Fallible R ε Unit}
    (hp : b = true → Honours rely allowed p) : Honours rely allowed (whenever b p) := by
  unfold whenever
  split
  · exact hp ‹_›
  · exact .done trivial

lemma honours_bind {p : Fallible R ε α} {f : α → Fallible R ε β} (hp : Honours rely allowed p)
    (hf : ∀ a, Honours rely allowed (f a)) : Honours rely allowed (p >>= f) := by
  refine Prog.Honours.bind hp fun x _ => ?_
  cases x with
  | error e => exact .done trivial
  | ok a => exact hf a

lemma honours_traverse {f : κ → Fallible R ε β} {xs : List κ}
    (h : ∀ x ∈ xs, Honours rely allowed (f x)) : Honours rely allowed (traverse f xs) := by
  induction xs with
  | nil => exact .done trivial
  | cons x xs ih =>
    refine honours_bind (h x List.mem_cons_self) fun _ => ?_
    refine honours_bind (ih fun y hy => h y (List.mem_cons_of_mem x hy)) fun _ => ?_
    exact .done trivial

end Honours

end Fallible

namespace Prog

variable {C : Type} {R : C → Type} {α σ : Type} {exec : (c : C) → σ → R c × σ} {s t : σ}
  {l : List C} {allowed : C → Prop} {p : Prog R α} {a : α}

/-- The commands of a program that is restricted to some of them. -/
theorem Uses.runs (h : Uses allowed p) (hrun : Runs exec p s a t l) : ∀ c ∈ l, allowed c := by
  obtain ⟨-, rfl⟩ := hrun
  clear t a
  induction h generalizing s with
  | done a => simp [commands]
  | step hc _ ih =>
    intro c hmem
    rcases List.mem_cons.mp hmem with rfl | hmem
    · exact hc
    · exact ih _ c hmem

variable {I : σ → Prop}

/-- What every allowed command preserves holds in every state passed. -/
theorem Uses.passes (hstep : ∀ c s, allowed c → I s → I (exec c s).2) (h : Uses allowed p)
    (hs : I s) : ∀ u ∈ p.passed exec s, I u := by
  induction h generalizing s with
  | done a => simpa [passed] using hs
  | step hc _ ih =>
    intro u hmem
    rcases List.mem_cons.mp hmem with rfl | hmem
    · exact hs
    · exact ih _ (hstep _ _ hc hs) u hmem

lemma Runs.mem_passed (hrun : Runs exec p s a t l) : t ∈ p.passed exec s := by
  obtain ⟨hrun, -⟩ := hrun
  obtain rfl : (p.run exec s).2 = t := congrArg Prod.snd hrun
  clear hrun
  induction p generalizing s with
  | ret a => exact List.mem_singleton_self s
  | act c k ih => exact List.mem_cons_of_mem _ (ih _)

lemma Uses.invariant (hstep : ∀ c s, allowed c → I s → I (exec c s).2) (h : Uses allowed p)
    (hrun : Runs exec p s a t l) (hs : I s) : I t :=
  h.passes hstep hs t hrun.mem_passed

/-- If the answers in states with an invariant are as a program relies on, and allowed commands
keep it, the program issues allowed commands only, keeps it throughout and ends as promised. -/
theorem Honours.runs {rely : (c : C) → R c → Prop} {post : α → Prop}
    (hstep : ∀ c s, allowed c → I s → rely c (exec c s).1 ∧ I (exec c s).2)
    (h : Honours rely allowed post p) (hrun : Runs exec p s a t l) (hs : I s) :
    (∀ c ∈ l, allowed c) ∧ I t ∧ post a := by
  obtain ⟨hrun, rfl⟩ := hrun
  induction h generalizing s with
  | done ha =>
    obtain ⟨rfl, rfl⟩ := Prod.mk.inj hrun
    exact ⟨by simp [commands], hs, ha⟩
  | step hc _ ih =>
    obtain ⟨hr, hnext⟩ := hstep _ s hc hs
    obtain ⟨hcommands, hend⟩ := ih _ hr hnext hrun
    exact ⟨by simpa [commands] using ⟨hc, hcommands⟩, hend⟩

end Prog
end Ax
