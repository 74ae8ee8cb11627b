import Ax.Foundation.AtomicFile
import Ax.Foundation.BTreeMap

/-!
# The shared values

A flat store of named texts that all workspaces read and write.  A value is
inserted first and the whole map is written to the state file afterwards, from
a copy.
-/

namespace Ax.Daemon

inductive SharedError
  | read (path source : String)
  | decode (path source : String)
  | encode (source : String)
  | persist (reason : String)
deriving DecidableEq, Repr

structure SharedValues where
  path : Option String
  inner : BTreeMap String String
  file : FileContent (BTreeMap String String)

namespace SharedValues

/-- A store that never persists. -/
def inMemory : SharedValues where
  path := none
  inner := ∅
  file := .absent

/-- Load the file at `path`; a missing one stands for no values. -/
def load (path : String) (file : FileContent (BTreeMap String String)) :
    Except SharedError SharedValues :=
  match file with
  | .absent => .ok ⟨some path, ∅, file⟩
  | .unreadable source => .error (.read path source)
  | .undecodable source => .error (.decode path source)
  | .holds values => .ok ⟨some path, values, file⟩

def set (s : SharedValues) (write : WriteOutcome) (key value : String) :
    Except SharedError Unit × SharedValues :=
  let snapshot := s.inner.insert key value
  let s' := { s with inner := snapshot }
  match s.path with
  | none => (.ok (), s')
  | some _ =>
    let written := { s' with file := s.file.replace write snapshot }
    match write with
    | .done => (.ok (), written)
    | .encodeFailed source => (.error (.encode source), written)
    | .writeFailed reason => (.error (.persist reason), written)

def get (s : SharedValues) (key : String) : Option String :=
  s.inner[key]?

def list (s : SharedValues) : BTreeMap String String :=
  s.inner

@[simp]
lemma set_inner (s : SharedValues) (write : WriteOutcome) (key value : String) :
    (s.set write key value).2.inner = s.inner.insert key value := by
  unfold set
  dsimp only
  split
  · rfl
  · split <;> rfl

end SharedValues

end Ax.Daemon
