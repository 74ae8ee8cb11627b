import Ax.Daemon.SharedValues
import Ax.Foundation.Execution

/-!
# Concurrent writes of the shared values

`set` inserts its value and copies the map under the lock, and replaces the file
from the copy after the lock is released.  Calls are numbered in the order of
their insertions; their file replacements may come in any other order.

Main results:

- Theorem `restart_of_lastInserted`: if the file was last replaced by the call that
  inserted last, a restart loads exactly the values in memory.
- Theorem `restart_loses_value`: two calls whose replacements come in the other
  order leave an acknowledged value out of the file.
-/

namespace Ax.Daemon

/-- One step of a call of `set`: its insertion, or the file replacement of the call
with the given number. -/
inductive SetEvent
  | insert (key value : String)
  | replace (call : Nat)

/-- Calls of `set` in progress on a store: the copies taken and not yet written, the
number of insertions so far and the call whose copy the file holds, with `0` for the
values it was loaded with. -/
structure SetCalls where
  store : SharedValues
  snapshots : Nat → Option (BTreeMap String String)
  inserted : Nat
  written : Nat

namespace SetCalls

/-- A store with no call of `set` on it yet. -/
def start (store : SharedValues) : SetCalls where
  store := store
  snapshots := fun _ => none
  inserted := 0
  written := 0

def next (s : SetCalls) : SetEvent → Option SetCalls
  | .insert key value =>
    let snapshot := s.store.inner.insert key value
    some
      { store := { s.store with inner := snapshot }
        snapshots := Function.update s.snapshots (s.inserted + 1) (some snapshot)
        inserted := s.inserted + 1
        written := s.written }
  | .replace call =>
    (s.snapshots call).map fun snapshot =>
      { store := { s.store with file := s.store.file.replace .done snapshot }
        snapshots := Function.update s.snapshots call none
        inserted := s.inserted
        written := call }

def Step (s : SetCalls) (event : SetEvent) (s' : SetCalls) : Prop :=
  s.next event = some s'

def Finished (s : SetCalls) : Prop :=
  ∀ call, s.snapshots call = none

structure Tracks (path : String) (s : SetCalls) : Prop where
  persists : s.store.path = some path
  written_le : s.written ≤ s.inserted
  snapshots : ∀ call snapshot, s.snapshots call = some snapshot →
    call ≤ s.inserted ∧ (call = s.inserted → snapshot = s.store.inner)
  file : s.written = s.inserted → SharedValues.load path s.store.file = .ok s.store

lemma tracks_start {path : String} {file : FileContent (BTreeMap String String)}
    {store : SharedValues} (hload : SharedValues.load path file = .ok store) :
    Tracks path (start store) := by
  have hstore : store.path = some path ∧ store.file = file := by
    cases file <;> cases hload <;> exact ⟨rfl, rfl⟩
  obtain ⟨hpath, rfl⟩ := hstore
  refine ⟨hpath, Nat.le_refl 0, ?_, fun _ => hload⟩
  intro call snapshot hcall
  cases hcall

lemma Tracks.step {path : String} {s s' : SetCalls} {event : SetEvent}
    (hstep : Step s event s') (h : Tracks path s) : Tracks path s' := by
  cases event with
  | insert key value =>
    cases hstep
    refine ⟨h.persists, Nat.le_succ_of_le h.written_le, ?_, ?_⟩
    · intro call snapshot hcall
      dsimp only at hcall
      by_cases hnew : call = s.inserted + 1
      · subst hnew
        rw [Function.update_self] at hcall
        exact ⟨Nat.le_refl _, fun _ => (Option.some.inj hcall).symm⟩
      · rw [Function.update_of_ne hnew] at hcall
        have hle := (h.snapshots call snapshot hcall).1
        exact ⟨Nat.le_succ_of_le hle, fun heq => absurd heq hnew⟩
    · -- The file is behind until the new call replaces it.
      intro heq
      have hle := h.written_le
      dsimp only at heq
      omega
  | replace call =>
    obtain ⟨snapshot, hcall, rfl⟩ := Option.map_eq_some_iff.mp hstep
    obtain ⟨hle, hlast⟩ := h.snapshots call snapshot hcall
    refine ⟨h.persists, hle, ?_, ?_⟩
    · intro other copy hother
      dsimp only at hother
      by_cases hsame : other = call
      · subst hsame
        rw [Function.update_self] at hother
        cases hother
      · rw [Function.update_of_ne hsame] at hother
        exact h.snapshots other copy hother
    · intro heq
      dsimp only at heq
      simp only [FileContent.replace, SharedValues.load, hlast heq, h.persists]

/-- In every interleaving of calls of `set` on a loaded store, whenever the file was
last replaced by the call that inserted last, a restart loads the store as it is in
memory. -/
theorem restart_of_lastInserted {path : String} {file : FileContent (BTreeMap String String)}
    {store : SharedValues} {events : List SetEvent} {s : SetCalls}
    (hload : SharedValues.load path file = .ok store) (hrun : Exec Step (start store) events s)
    (hlast : s.written = s.inserted) :
    SharedValues.load path s.store.file = .ok s.store := by
  have htracks : Tracks path s :=
    hrun.invariant (fun hstep h => h.step hstep) (tracks_start hload)
  exact htracks.file hlast

def firstStart : SharedValues :=
  ⟨some "shared_values.json", ∅, .absent⟩

/-- The store after the first call inserted `build` and the second one `deploy`, and
their replacements came in the given order. -/
def afterTwo (first second : Nat) : Option SetCalls :=
  runSteps next (start firstStart)
    [.insert "build" "ok", .insert "deploy" "v2", .replace first, .replace second]

theorem restart_of_lastInserted_two :
    ∃ s, afterTwo 1 2 = some s ∧
      SharedValues.load "shared_values.json" s.store.file = .ok s.store := by
  have hload : SharedValues.load "shared_values.json" .absent = .ok firstStart := rfl
  obtain ⟨s, hs, hlast⟩ : ∃ s, afterTwo 1 2 = some s ∧ s.written = s.inserted := ⟨_, rfl, rfl⟩
  exact ⟨s, hs, restart_of_lastInserted hload (exec_of_runSteps (fun _ _ _ h => h) hs) hlast⟩

/-- When the second call's file is replaced by the first call's older copy, both have
returned and a restart does not know the second value. -/
theorem restart_loses_value :
    ∃ s restarted, afterTwo 2 1 = some s ∧ s.Finished ∧
      SharedValues.load "shared_values.json" s.store.file = .ok restarted ∧
      s.store.get "deploy" = some "v2" ∧ restarted.get "deploy" = none := by
  refine ⟨_, _, rfl, ?_, rfl, ?_, ?_⟩
  · intro call
    by_cases hone : call = 1
    · subst hone; rfl
    · by_cases htwo : call = 2
      · subst htwo; rfl
      · simp [hone, htwo, start]
  · decide
  · decide

end SetCalls
end Ax.Daemon
