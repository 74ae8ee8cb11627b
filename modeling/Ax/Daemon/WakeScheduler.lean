import Ax.Foundation.KeyedMap
import Ax.Proto.Types

/-!
# The wake scheduler

The pending wakes, at most one for a workspace, and the critical sections of
the scheduler that change them.  The daemon installs no retry policy for
successful wakes, so a wake is retried until it fails, is cancelled or reaches
the maximum of attempts.

Main results:

- Theorem `nodup_ready`: a workspace is due at most once.
- Theorems `isPending_*`: which wakes are pending after each operation.
-/

namespace Ax.Daemon

/-- `WAKE_MAX_ATTEMPTS`. -/
def wakeMaxAttempts : Nat :=
  10

/-- `WAKE_CHECK_INTERVAL`. -/
def wakeCheckInterval : Int :=
  seconds 3

/-- `wake_backoff`. -/
def wakeBackoff : Nat → Int
  | 0 => seconds 5
  | 1 => seconds 10
  | 2 => seconds 20
  | 3 => seconds 40
  | _ => seconds 60

structure PendingWake where
  workspace : String
  sender : String
  attempts : Nat
  nextRetry : Timestamp
deriving DecidableEq, Repr

abbrev WakeMap : Type :=
  KeyedMap String PendingWake PendingWake.workspace

namespace WakeMap

def isPending (m : WakeMap) (workspace : String) : Bool :=
  (m.get workspace).isSome

def schedule (m : WakeMap) (now : Timestamp) (workspace sender : String) : WakeMap :=
  m.put
    { workspace := workspace
      sender := sender
      attempts := 0
      nextRetry := now + seconds 5 }

def cancel (m : WakeMap) (workspace : String) : WakeMap :=
  m.remove workspace

def ready (m : WakeMap) (now : Timestamp) : List PendingWake :=
  m.values.filter fun wake => wake.nextRetry ≤ now

def postpone (m : WakeMap) (now : Timestamp) (workspace : String) : WakeMap :=
  match m.get workspace with
  | none => m
  | some entry => m.put { entry with nextRetry := now + wakeCheckInterval }

def wakeFailed : Option (Except String Unit) → Bool
  | some (.error _) => true
  | some (.ok _) | none => false

/-- Count an attempt.  `result` is the outcome of waking the session, or `none`
if the session was only started.  A failed wake and the last attempt drop the
entry. -/
def advanceAttempt (m : WakeMap) (now : Timestamp) (workspace : String)
    (result : Option (Except String Unit)) : WakeMap :=
  match m.get workspace with
  | none => m
  | some entry =>
    let attempts := entry.attempts + 1
    if wakeFailed result ∨ wakeMaxAttempts ≤ attempts then m.remove workspace
    else m.put { entry with attempts := attempts, nextRetry := now + wakeBackoff attempts }

/-! ## The wake of a workspace after each operation -/

variable (m : WakeMap) (now : Timestamp)

lemma get_schedule (workspace sender w : String) :
    (m.schedule now workspace sender).get w =
      if w = workspace then some ⟨workspace, sender, 0, now + seconds 5⟩ else m.get w := by
  unfold schedule
  rw [KeyedMap.get_put]

variable (workspace w : String)

lemma get_cancel : (m.cancel workspace).get w = if w = workspace then none else m.get w := by
  unfold cancel
  rw [KeyedMap.get_remove]

lemma get_postpone :
    (m.postpone now workspace).get w =
      if w = workspace then
        (m.get workspace).map fun entry => { entry with nextRetry := now + wakeCheckInterval }
      else m.get w := by
  have hmodify : m.postpone now workspace =
      m.modify workspace fun entry => { entry with nextRetry := now + wakeCheckInterval } := by
    unfold postpone KeyedMap.modify
    cases m.get workspace with
    | none => rfl
    | some entry => rfl
  rw [hmodify, KeyedMap.get_modify]
  exact fun _ => rfl

variable (result : Option (Except String Unit))

lemma get_advanceAttempt :
    (m.advanceAttempt now workspace result).get w =
      if w = workspace then
        (m.get workspace).bind fun entry =>
          if wakeFailed result ∨ wakeMaxAttempts ≤ entry.attempts + 1 then none
          else some { entry with
            attempts := entry.attempts + 1
            nextRetry := now + wakeBackoff (entry.attempts + 1) }
      else m.get w := by
  unfold advanceAttempt
  cases hget : m.get workspace with
  | none =>
    by_cases hw : w = workspace
    · rw [if_pos hw, hw]
      exact hget
    · rw [if_neg hw]
  | some entry =>
    have hkey : entry.workspace = workspace := KeyedMap.key_of_get hget
    dsimp only [Option.bind_some]
    by_cases hdrop : wakeFailed result ∨ wakeMaxAttempts ≤ entry.attempts + 1
    · rw [if_pos hdrop, if_pos hdrop, KeyedMap.get_remove]
    · rw [if_neg hdrop, if_neg hdrop, KeyedMap.get_put, hkey]

/-! ## Pending wakes after each operation -/

/-- Scheduling makes the wake of its workspace pending. -/
@[simp]
theorem isPending_schedule (workspace sender w : String) :
    (m.schedule now workspace sender).isPending w = (decide (w = workspace) || m.isPending w) := by
  unfold isPending
  rw [get_schedule]
  by_cases hw : w = workspace
  · simp [hw]
  · simp [hw]

/-- Cancelling drops the wake of its workspace only. -/
@[simp]
theorem isPending_cancel :
    (m.cancel workspace).isPending w = (decide (w ≠ workspace) && m.isPending w) := by
  unfold isPending
  rw [get_cancel]
  by_cases hw : w = workspace
  · simp [hw]
  · simp [hw]

/-- Postponing drops no wake. -/
@[simp]
theorem isPending_postpone : (m.postpone now workspace).isPending w = m.isPending w := by
  unfold isPending
  rw [get_postpone]
  by_cases hw : w = workspace
  · rw [if_pos hw, Option.isSome_map, hw]
  · rw [if_neg hw]

/-- An attempt does not touch the wakes of other workspaces. -/
theorem isPending_advanceAttempt_of_ne {workspace w : String} (hw : w ≠ workspace) :
    (m.advanceAttempt now workspace result).isPending w = m.isPending w := by
  unfold isPending
  rw [get_advanceAttempt, if_neg hw]

lemma advanceAttempt_of_not_isPending {m : WakeMap} {workspace : String}
    (h : m.isPending workspace = false) : m.advanceAttempt now workspace result = m := by
  have hnone : m.get workspace = none := by simpa [isPending] using h
  unfold advanceAttempt
  rw [hnone]

/-! ## The wakes that are due -/

/-- A workspace is due at most once. -/
theorem nodup_ready : ((m.ready now).map PendingWake.workspace).Nodup := by
  unfold ready
  exact (List.filter_sublist.map PendingWake.workspace).nodup m.nodup_map_values

lemma mem_ready_iff {m : WakeMap} {now : Timestamp} {w : String} :
    w ∈ (m.ready now).map PendingWake.workspace ↔
      ∃ entry, m.get w = some entry ∧ entry.nextRetry ≤ now := by
  unfold ready
  constructor
  · intro h
    obtain ⟨entry, hentry, rfl⟩ := List.mem_map.mp h
    obtain ⟨hvalue, hdue⟩ := List.mem_filter.mp hentry
    exact ⟨entry, KeyedMap.mem_values_iff.mp hvalue, of_decide_eq_true hdue⟩
  · rintro ⟨entry, hget, hdue⟩
    refine List.mem_map.mpr ⟨entry, List.mem_filter.mpr ⟨?_, decide_eq_true hdue⟩, ?_⟩
    · refine KeyedMap.mem_values_iff.mpr ?_
      rw [KeyedMap.key_of_get hget]
      exact hget
    · exact KeyedMap.key_of_get hget

end WakeMap
end Ax.Daemon
