import Ax.Foundation.Path

/-!
# File systems without symbolic links

A finite tree of directories and files, and how a path is resolved in it: segment by
segment from the root, where `..` goes to the directory above.  A path leads to a location,
the names on the way from the root; two paths lead to the same file if their locations are
equal.

Main results:

- Theorem `followAll_of_isFiller`: segments that are no components lead nowhere else.
-/

namespace Ax

inductive FileTree (γ : Type)
  | file (content : γ)
  | dir (entries : List (String × FileTree γ))

inductive PathError
  | notFound
  | notADirectory
deriving DecidableEq, Repr

namespace FileTree

variable {γ : Type}

/-- What is at a location. -/
def node? : List String → FileTree γ → Option (FileTree γ)
  | [], tree => some tree
  | _ :: _, .file _ => none
  | name :: rest, .dir entries => (entries.lookup name).bind (node? rest)

def follow (root : FileTree γ) (here : List String) (segment : String) :
    Except PathError (List String) :=
  match root.node? here with
  | none => .error .notFound
  | some (.file _) => .error .notADirectory
  | some (.dir entries) =>
    if Path.isFiller segment then .ok here
    else if segment = ".." then .ok here.dropLast
    else
      match entries.lookup segment with
      | none => .error .notFound
      | some _ => .ok (here ++ [segment])

def followAll (root : FileTree γ) : List String → List String → Except PathError (List String)
  | here, [] => .ok here
  | here, segment :: rest =>
    match root.follow here segment with
    | .error e => .error e
    | .ok here => root.followAll here rest

/-- Segments that are no components lead nowhere else. -/
theorem followAll_of_isFiller {root : FileTree γ} {here segments : List String}
    {entries : List (String × FileTree γ)} (hdir : root.node? here = some (.dir entries))
    (h : ∀ segment ∈ segments, Path.isFiller segment = true) :
    root.followAll here segments = .ok here := by
  induction segments with
  | nil => rfl
  | cons segment rest ih =>
    have hfollow : root.follow here segment = .ok here := by
      simp [follow, hdir, h segment List.mem_cons_self]
    rw [followAll, hfollow]
    exact ih fun segment hsegment => h segment (List.mem_cons_of_mem _ hsegment)

lemma followAll_append (root : FileTree γ) (here xs ys : List String) :
    root.followAll here (xs ++ ys) = (root.followAll here xs).bind (root.followAll · ys) := by
  induction xs generalizing here with
  | nil => rfl
  | cons segment rest ih =>
    rw [List.cons_append, followAll, followAll]
    cases root.follow here segment with
    | error e => rfl
    | ok there => exact ih there

/-- An empty segment before others changes nothing, even where there is no directory. -/
lemma followAll_filler (root : FileTree γ) (here : List String) {segments : List String}
    (hne : segments ≠ []) :
    root.followAll here ("" :: segments) = root.followAll here segments := by
  obtain ⟨segment, rest, rfl⟩ := List.exists_cons_of_ne_nil hne
  have hfollow : root.follow here "" = .ok here ∨
      ∃ e, root.follow here "" = .error e ∧ root.follow here segment = .error e := by
    unfold follow
    cases root.node? here with
    | none => exact .inr ⟨_, rfl, rfl⟩
    | some node =>
      cases node with
      | file content => exact .inr ⟨_, rfl, rfl⟩
      | dir entries => exact .inl rfl
  rw [followAll]
  rcases hfollow with h | ⟨e, hnone, hsegment⟩
  · rw [h]
  · rw [followAll, hnone, hsegment]

end FileTree
end Ax
