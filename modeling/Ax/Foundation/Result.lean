/-!
# Fallible computations

How a successful outcome of a composed computation splits into successful
outcomes of its parts.
-/

namespace Ax.Result

variable {ε α β : Type} {b : β} {x : Except ε α} {a : α}

theorem bind_eq_ok {f : α → Except ε β} : (x >>= f) = .ok b ↔ ∃ a, x = .ok a ∧ f a = .ok b := by
  cases x with
  | error e =>
    constructor
    · intro h
      cases h
    · rintro ⟨_, h, _⟩
      cases h
  | ok a =>
    constructor
    · intro h
      exact ⟨a, rfl, h⟩
    · rintro ⟨a', ha, h⟩
      obtain rfl := Except.ok.inj ha
      exact h

theorem map_eq_ok {f : α → β} : x.map f = .ok b ↔ ∃ a, x = .ok a ∧ f a = b := by
  cases x with
  | error e =>
    constructor
    · intro h
      cases h
    · rintro ⟨_, h, _⟩
      cases h
  | ok a => simp [Except.map]

theorem mapError_eq_ok {ε' : Type} {f : ε → ε'} : x.mapError f = .ok a ↔ x = .ok a := by
  cases x with
  | error e =>
    constructor
    · intro h
      cases h
    · intro h
      cases h
  | ok b =>
    constructor
    · intro h
      cases h
      rfl
    · intro h
      cases h
      rfl

theorem toOption_eq_some : x.toOption = some a ↔ x = .ok a := by
  cases x <;> simp [Except.toOption]

theorem mem_toOption : a ∈ x.toOption.toList ↔ x = .ok a := by
  cases x with
  | error e => simp [Except.toOption]
  | ok b => simp [Except.toOption, eq_comm]

theorem exists_ok_of_bind {x : Option (Except ε α)} {f : α → β}
    (h : (x.bind fun result => result.toOption.map f) = some b) :
    ∃ a, x = some (.ok a) ∧ f a = b := by
  obtain ⟨result, rfl, hresult⟩ := Option.bind_eq_some_iff.mp h
  cases result with
  | error e => cases hresult
  | ok a => exact ⟨a, rfl, Option.some.inj hresult⟩

end Ax.Result
