import Mathlib.Order.Defs.PartialOrder
import Mathlib.Data.List.Basic

/-!
# Retries with back-off

An entry is tried again and again.  Each attempt is counted, and the next one has to wait
for a time that depends on how many there were.  After a number of attempts the entry is
dropped.  Somebody first lists the entries that are due and then deals with them, one
after the other, so that an attempt may come late.

Main results:

- Theorems `Tracks.*`: each operation keeps the attempts bounded and apart.
- Theorem `map_attempts_count`: without failures the entry is dropped by the last attempt.
-/

namespace Ax

/-- How many attempts there are, and when the attempt after the `k`-th one at time `t` may
come. -/
structure RetryPolicy (T : Type) where
  limit : Nat
  after : Nat → T → T

structure Retry (T : Type) where
  attempts : Nat
  nextRetry : T

namespace RetryPolicy

variable {T : Type} (policy : RetryPolicy T)

/-- The entry after an attempt, if it stays. -/
def count (now : T) (failed : Bool) (entry : Retry T) : Option (Retry T) :=
  if failed = false ∧ entry.attempts + 1 < policy.limit then
    some ⟨entry.attempts + 1, policy.after (entry.attempts + 1) now⟩
  else none

/-- What is left of an entry after `n` attempts without a failure. -/
def remaining (n : Nat) : Option Nat :=
  if n < policy.limit then some n else none

/-- An attempt that does not fail leaves what is left after one more. -/
theorem map_attempts_count (now : T) (entry : Retry T) :
    (policy.count now false entry).map Retry.attempts =
      policy.remaining (entry.attempts + 1) := by
  unfold count remaining
  by_cases hlast : entry.attempts + 1 < policy.limit
  · rw [if_pos ⟨rfl, hlast⟩, if_pos hlast]
    rfl
  · rw [if_neg fun h => hlast h.2, if_neg hlast]
    rfl

lemma lt_of_count {now : T} {failed : Bool} {entry left : Retry T}
    (h : policy.count now failed entry = some left) :
    left = ⟨entry.attempts + 1, policy.after (entry.attempts + 1) now⟩ ∧
      left.attempts < policy.limit := by
  unfold count at h
  split at h
  · rename_i hstays
    obtain rfl := Option.some.inj h
    exact ⟨rfl, hstays.2⟩
  · cases h

variable [Preorder T]

def Spaced (attempts : List T) : Prop :=
  ∀ k t t', attempts[k]? = some t → attempts[k + 1]? = some t' → policy.after (k + 1) t ≤ t'

lemma Spaced.append {attempts : List T} {now : T} (h : policy.Spaced attempts)
    (hnow : ∀ t, attempts.getLast? = some t → policy.after attempts.length t ≤ now) :
    policy.Spaced (attempts ++ [now]) := by
  intro k t t' ht ht'
  have hk : k + 1 < (attempts ++ [now]).length := (List.getElem?_eq_some_iff.mp ht').1
  rw [List.length_append, List.length_singleton] at hk
  rw [List.getElem?_append_left (by omega)] at ht
  by_cases hlast : k + 1 < attempts.length
  · rw [List.getElem?_append_left hlast] at ht'
    exact h k t t' ht ht'
  · have hlength : attempts.length = k + 1 := by omega
    rw [← hlength, List.getElem?_concat_length] at ht'
    obtain rfl := Option.some.inj ht'
    rw [← hlength]
    refine hnow t ?_
    rw [List.getLast?_eq_getElem?, hlength]
    exact ht

/-- What is known of an entry at a time, given the attempts since it was registered;
`due` says whether it was listed and not dealt with yet. -/
structure Tracks (clock : T) (due : Bool) (entry : Option (Retry T)) (attempts : List T) :
    Prop where
  spaced : policy.Spaced attempts
  bounded : attempts.length ≤ policy.limit
  counted : ∀ e, entry = some e → e.attempts = attempts.length ∧ e.attempts < policy.limit
  rested : ∀ e t, entry = some e → attempts.getLast? = some t →
    policy.after attempts.length t ≤ clock ∨
      due = false ∧ policy.after attempts.length t ≤ e.nextRetry

namespace Tracks

variable {policy} {clock now next : T} {due : Bool} {entry : Option (Retry T)} {e : Retry T}
  {attempts : List T}

/-- A new entry, registered at any time. -/
theorem start (hlimit : 0 < policy.limit) : policy.Tracks clock due (some ⟨0, next⟩) [] where
  spaced _ _ _ ht := by cases ht
  bounded := Nat.zero_le _
  counted := by
    rintro e ⟨⟩
    exact ⟨rfl, hlimit⟩
  rested _ _ _ ht := by cases ht

/-- Time goes on. -/
theorem tick (h : policy.Tracks clock due entry attempts) (hclock : clock ≤ now) :
    policy.Tracks now due entry attempts :=
  ⟨h.spaced, h.bounded, h.counted, fun e t he ht =>
    (h.rested e t he ht).imp_left fun hle => le_trans hle hclock⟩

lemma drop (h : policy.Tracks clock due entry attempts) (due' : Bool) :
    policy.Tracks clock due' none attempts where
  spaced := h.spaced
  bounded := h.bounded
  counted _ he := by cases he
  rested _ _ he := by cases he

/-- The entry is listed once its time has come. -/
theorem list (h : policy.Tracks clock due (some e) attempts) (hdue : e.nextRetry ≤ clock)
    (due' : Bool) : policy.Tracks clock due' (some e) attempts where
  spaced := h.spaced
  bounded := h.bounded
  counted := h.counted
  rested := by
    rintro _ t ⟨⟩ ht
    rcases h.rested e t rfl ht with hclock | ⟨_, hnext⟩
    · exact .inl hclock
    · exact .inl (le_trans hnext hdue)

/-- A listed entry is put off. -/
theorem postpone (h : policy.Tracks clock true (some e) attempts) :
    policy.Tracks clock due (some { e with nextRetry := next }) attempts where
  spaced := h.spaced
  bounded := h.bounded
  counted := by
    rintro _ ⟨⟩
    exact h.counted e rfl
  rested := by
    rintro _ t ⟨⟩ ht
    rcases h.rested e t rfl ht with hclock | ⟨hdue, _⟩
    · exact .inl hclock
    · cases hdue

/-- An attempt for a listed entry is counted. -/
theorem count (h : policy.Tracks clock true (some e) attempts) (failed : Bool) :
    policy.Tracks clock false (policy.count clock failed e) (attempts ++ [clock]) := by
  obtain ⟨hcounted, hlimit⟩ := h.counted e rfl
  have hrested : ∀ t, attempts.getLast? = some t → policy.after attempts.length t ≤ clock := by
    intro t ht
    rcases h.rested e t rfl ht with hclock | ⟨hdue, _⟩
    · exact hclock
    · cases hdue
  have hlength : (attempts ++ [clock]).length = e.attempts + 1 := by
    rw [List.length_append, List.length_singleton, hcounted]
  refine ⟨h.spaced.append policy hrested, hlength ▸ hlimit, ?_, ?_⟩
  · intro e' he'
    obtain ⟨rfl, hleft⟩ := policy.lt_of_count he'
    exact ⟨hlength.symm, hleft⟩
  · intro e' t he' ht
    obtain ⟨rfl, _⟩ := policy.lt_of_count he'
    rw [List.getLast?_concat] at ht
    obtain rfl := Option.some.inj ht
    rw [hlength]
    exact .inr ⟨rfl, le_refl _⟩

end Tracks
end RetryPolicy
end Ax
