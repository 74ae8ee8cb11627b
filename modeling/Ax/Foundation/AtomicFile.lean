/-!
# Files replaced as a whole

A state file holds one encoded value.  It is only ever replaced as a whole: the
new contents are written to a temporary file that is renamed into place, so
that a write either takes effect completely or leaves the old contents.
-/

namespace Ax

inductive FileContent (α : Type)
  | absent
  | unreadable (source : String)
  | undecodable (source : String)
  | holds (value : α)
deriving DecidableEq, Repr

inductive WriteOutcome
  | done
  | encodeFailed (source : String)
  | writeFailed (reason : String)
deriving DecidableEq, Repr

/-- The file after an attempt to replace its contents by `value`. -/
def FileContent.replace {α : Type} (file : FileContent α) (outcome : WriteOutcome) (value : α) :
    FileContent α :=
  match outcome with
  | .done => .holds value
  | .encodeFailed _ | .writeFailed _ => file

end Ax
