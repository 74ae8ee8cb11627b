import Mathlib.Data.Finset.Basic
import Ax.Config.Local

/-!
# Walking a tree of configuration files

Loading, loading as a tree, and validating a project are recursions of one shape: a
file is loaded unless it is being loaded already, and each child that has a
configuration is visited in the order of the names; a child whose file is gone is
skipped.  `Walker` is what the three do beside that, and `Walker.walk` the recursion.
It has a bound on its depth, since nothing else bounds it.

The loaders are walks without checks, each a `Fold`; the tree of files that such a walk
goes through is itself one.

Main results:

- Theorem `Tracks.walk`: where a walk with checks gets through, the walk without checks
  gets through along the same files.
-/

namespace Ax.Config

/-! ## Errors -/

/-- The structural failures of a project tree. -/
inductive ValidationError
  | duplicateChildPrefix (prefix_ firstName firstPath firstDir secondName secondPath
      secondDir : String)
  | reservedNameForWorkspace (merged name path existing : String)
  | reservedNameForChild (session childName path childDir prefix_ wsName wsPath : String)
  | orchestratorDepthExceeded (depth cap : Nat) (path : String)
  | childrenPerNodeExceeded (count cap : Nat) (path : String)
deriving DecidableEq, Repr

inductive TreeError
  | load (source : LoadError)
  | cycle (path : String)
  | child (name dir : String) (source : TreeError)
  | validation (source : ValidationError)
deriving DecidableEq, Repr

/-- `is_missing_file`, which the loader and the validation define alike. -/
def isMissingFile : TreeError → Bool
  | .load (.read _ source) => source.kind = .notFound
  | _ => false

/-- `qualify_name`, which the loader and the validation define alike. -/
def qualifyName (prefix_ name : String) : String :=
  if prefix_ = "" then name else s!"{prefix_}.{name}"

/-! ## Walks -/

/-- The files that are being loaded, as paths; and, for the specification, the files that
were loaded so far, in order. -/
structure Trail where
  seen : Finset (List String)
  visited : List String
deriving DecidableEq

namespace Trail

/-- Before any file. -/
def start : Trail where
  seen := ∅
  visited := []

/-- A file is about to be loaded. -/
def push (trail : Trail) (abs : String) : Trail :=
  { trail with seen := insert (Path.components abs) trail.seen }

/-- A file was loaded. -/
def visit (trail : Trail) (abs : String) : Trail :=
  { trail with visited := trail.visited ++ [abs] }

/-- A file and its children were loaded. -/
def pop (trail : Trail) (abs : String) : Trail :=
  { trail with seen := trail.seen.erase (Path.components abs) }

end Trail

/-- What a recursion over a project tree does beside walking it: how it loads a file, what it tests
before and after that, where it looks for a child and under which prefix, what it tests and notes
before a child and takes back if the child is missing, and what it makes of the result for a child.
Its own errors are structural ones, so they never look like a missing file. -/
structure Walker (σ α : Type) where
  load : String → Except TreeError Config
  accept : σ → String → Nat → Except TreeError Unit
  enter : σ → String → String → Config → Except TreeError (σ × α)
  childDir : String → Child → String
  childPrefix : String → Child → String
  claim : σ → String → String → String → String → Except TreeError σ
  unclaim : σ → String → σ
  adopt : α → String → Child → α → α
  accept_error : ∀ {s abs depth e}, accept s abs depth = .error e → ∃ source, e = .validation source
  enter_error : ∀ {s abs prefix_ cfg e}, enter s abs prefix_ cfg = .error e →
    ∃ source, e = .validation source
  claim_error : ∀ {s abs name dir prefix_ e}, claim s abs name dir prefix_ = .error e →
    ∃ source, e = .validation source

variable {σ α β : Type}

/-- What a step answers, with the files being loaded and the state of the walker. -/
abbrev Outcome (σ α : Type) : Type :=
  Except TreeError α × (Trail × σ)

namespace Walker

def enterFile (w : Walker σ α) (disk : Disk) (path prefix_ : String) (depth : Nat)
    (trail : Trail) (state : σ) : Outcome σ (String × Config × α) :=
  match absolutize disk path with
  | .error e => (.error (.load e), (trail, state))
  | .ok abs =>
    if Path.components abs ∈ trail.seen then (.error (.cycle abs), (trail, state))
    else
      match w.accept state abs depth with
      | .error e => (.error e, (trail.push abs, state))
      | .ok () =>
        match w.load abs with
        | .error e => (.error e, (trail.push abs, state))
        | .ok cfg =>
          match w.enter state abs prefix_ cfg with
          | .error e => (.error e, ((trail.push abs).visit abs, state))
          | .ok (state, a) => (.ok (abs, cfg, a), ((trail.push abs).visit abs, state))

def walkChildren (w : Walker σ α) (disk : Disk)
    (recurse : String → String → Trail × σ → Option (Outcome σ α)) (abs prefix_ : String) :
    List (String × Child) → α → Trail × σ → Option (Outcome σ α)
  | [], a, s => some (.ok a, s)
  | (name, child) :: rest, a, (trail, state) =>
    match configPathInDir disk (w.childDir abs child) with
    | none => w.walkChildren disk recurse abs prefix_ rest a (trail, state)
    | some path =>
      let childPrefix := qualifyName prefix_ (w.childPrefix name child)
      match w.claim state abs name (w.childDir abs child) childPrefix with
      | .error e => some (.error e, (trail, state))
      | .ok state =>
        match recurse path childPrefix (trail, state) with
        | none => none
        | some (.ok b, s) => w.walkChildren disk recurse abs prefix_ rest (w.adopt a name child b) s
        | some (.error e, (trail, state)) =>
          if isMissingFile e then
            w.walkChildren disk recurse abs prefix_ rest a
              (trail, w.unclaim state childPrefix)
          else some (.error (.child name (w.childDir abs child) e), (trail, state))

def leaveFile (abs : String) : Outcome σ α → Outcome σ α
  | (.ok a, (trail, state)) => (.ok a, (trail.pop abs, state))
  | (.error e, s) => (.error e, s)

/-- The recursion, to a depth of `fuel` files. -/
def walk (w : Walker σ α) (disk : Disk) :
    Nat → String → String → Nat → Trail × σ → Option (Outcome σ α)
  | 0, _, _, _, _ => none
  | fuel + 1, path, prefix_, depth, s =>
    match w.enterFile disk path prefix_ depth s.1 s.2 with
    | (.error e, s) => some (.error e, s)
    | (.ok (abs, cfg, a), s) =>
      (w.walkChildren disk (fun path prefix_ s => w.walk disk fuel path prefix_ (depth + 1) s)
        abs prefix_ cfg.children.toList a s).map (leaveFile abs)

/-! ### Inversion -/

section Inversion

variable {w : Walker σ α} {disk : Disk} {path prefix_ : String} {depth : Nat}
  {trail : Trail} {state : σ} {s' : Trail × σ} {a : α} {e : TreeError} {s : Trail × σ}

lemma enterFile_eq_ok {abs : String} {cfg : Config}
    (h : w.enterFile disk path prefix_ depth trail state = (.ok (abs, cfg, a), s')) :
    absolutize disk path = .ok abs ∧ Path.components abs ∉ trail.seen ∧
      w.accept state abs depth = .ok () ∧ w.load abs = .ok cfg ∧
      ∃ state', w.enter state abs prefix_ cfg = .ok (state', a) ∧
        s' = ((trail.push abs).visit abs, state') := by
  unfold enterFile at h
  repeat' split at h
  all_goals simp only [Prod.mk.injEq, reduceCtorEq, false_and, Except.ok.injEq] at h
  obtain ⟨⟨rfl, rfl, rfl⟩, rfl⟩ := h
  exact ⟨by assumption, by assumption, by assumption, by assumption, _, by assumption, rfl⟩

lemma enterFile_missing (h : w.enterFile disk path prefix_ depth trail state = (.error e, s'))
    (he : isMissingFile e = true) :
    (∃ e', absolutize disk path = .error e' ∧ e = .load e' ∧ s' = (trail, state)) ∨
      ∃ abs, absolutize disk path = .ok abs ∧ Path.components abs ∉ trail.seen ∧
        w.accept state abs depth = .ok () ∧ w.load abs = .error e ∧
        s' = (trail.push abs, state) := by
  unfold enterFile at h
  split at h
  · rename_i e' hpath
    cases h
    exact .inl ⟨e', hpath, rfl, rfl⟩
  · rename_i abs hpath
    split at h
    · cases h
      cases he
    · rename_i hseen
      split at h
      · rename_i haccept
        cases h
        obtain ⟨_, rfl⟩ := w.accept_error haccept
        cases he
      · rename_i haccept
        split at h
        · rename_i hload
          cases h
          exact .inr ⟨abs, hpath, hseen, haccept, hload, rfl⟩
        · split at h
          · rename_i henter
            cases h
            obtain ⟨_, rfl⟩ := w.enter_error henter
            cases he
          · cases h

lemma walkChildren_error {recurse : String → String → Trail × σ → Option (Outcome σ α)}
    {abs : String} {children : List (String × Child)}
    (h : w.walkChildren disk recurse abs prefix_ children a s = some (.error e, s')) :
    isMissingFile e = false := by
  induction children generalizing a s with
  | nil => simp [walkChildren] at h
  | cons entry rest ih =>
    simp only [walkChildren] at h
    repeat' split at h
    · exact ih h
    · rename_i hclaim
      cases h
      obtain ⟨_, rfl⟩ := w.claim_error hclaim
      rfl
    · cases h
    · exact ih h
    · exact ih h
    · cases h
      rfl

lemma walk_eq_ok {fuel : Nat} {s : Trail × σ} {a : α}
    (h : w.walk disk (fuel + 1) path prefix_ depth s = some (.ok a, s')) :
    ∃ abs cfg a₀ s₁ s₂, w.enterFile disk path prefix_ depth s.1 s.2 = (.ok (abs, cfg, a₀), s₁) ∧
      w.walkChildren disk (fun path prefix_ s => w.walk disk fuel path prefix_ (depth + 1) s)
        abs prefix_ cfg.children.toList a₀ s₁ = some (.ok a, s₂) ∧
      s' = (s₂.1.pop abs, s₂.2) := by
  rw [walk] at h
  split at h
  · cases h
  · rename_i abs cfg a₀ s₁ henter
    obtain ⟨⟨result, s₂⟩, hchildren, hleave⟩ := Option.map_eq_some_iff.mp h
    cases result with
    | error e => cases hleave
    | ok a₁ =>
      cases hleave
      exact ⟨abs, cfg, a₀, s₁, s₂, henter, hchildren, rfl⟩

lemma walk_missing {fuel : Nat} (h : w.walk disk fuel path prefix_ depth s = some (.error e, s'))
    (he : isMissingFile e = true) :
    w.enterFile disk path prefix_ depth s.1 s.2 = (.error e, s') := by
  cases fuel with
  | zero => cases h
  | succ fuel =>
    rw [walk] at h
    split at h
    · rename_i henter
      cases h
      exact henter
    · obtain ⟨⟨result, s₂⟩, hchildren, hleave⟩ := Option.map_eq_some_iff.mp h
      cases result with
      | ok a => cases hleave
      | error e' =>
        cases hleave
        rw [walkChildren_error hchildren] at he
        cases he

end Inversion

/-! ### The bound -/

lemma walk_congr {w : Walker σ α} {disk : Disk} {path path' : String}
    (h : absolutize disk path = absolutize disk path') (fuel : Nat) (prefix_ : String)
    (depth : Nat) (s : Trail × σ) :
    w.walk disk fuel path prefix_ depth s = w.walk disk fuel path' prefix_ depth s := by
  cases fuel with
  | zero => rfl
  | succ fuel => simp only [walk, enterFile, h]

end Walker

/-! ## Walks without checks -/

inductive ConfigTree
  | file (path : String) (cfg : Config)
  | adopt (tree : ConfigTree) (name : String) (child : Child) (sub : ConfigTree)

/-- A recursion that only computes: what it makes of a file, given its prefix, and of the
result for a child. -/
structure Fold (β : Type) where
  enter : String → String → Config → β
  adopt : β → String → Child → β → β

namespace Fold

def walker (f : Fold β) (disk : Disk) (dirs : String → Child → String) : Walker Unit β where
  load abs := (loadLocalConfig disk abs).mapError .load
  accept _ _ _ := .ok ()
  enter _ abs prefix_ cfg := .ok ((), f.enter abs prefix_ cfg)
  childDir := dirs
  childPrefix _ child := child.prefix_
  claim _ _ _ _ _ := .ok ()
  unclaim _ _ := ()
  adopt := f.adopt
  accept_error h := nomatch h
  enter_error h := nomatch h
  claim_error h := nomatch h

def eval (f : Fold β) (prefix_ : String) : ConfigTree → β
  | .file path cfg => f.enter path prefix_ cfg
  | .adopt tree name child sub =>
    f.adopt (f.eval prefix_ tree) name child (f.eval (qualifyName prefix_ child.prefix_) sub)

end Fold

def explorer : Fold ConfigTree where
  enter path _ cfg := .file path cfg
  adopt := .adopt

def explore (disk : Disk) (dirs : String → Child → String) :
    Nat → String → String → Nat → Trail × Unit → Option (Outcome Unit ConfigTree) :=
  (explorer.walker disk dirs).walk disk

namespace Fold

variable (f : Fold β) {disk : Disk} {dirs : String → Child → String}

def outcome (prefix_ : String) : Outcome Unit ConfigTree → Outcome Unit β
  | (result, s) => (result.map (f.eval prefix_), s)

lemma enterFile_eq_outcome (path prefix_ : String) (depth : Nat) (trail : Trail) :
    (f.walker disk dirs).enterFile disk path prefix_ depth trail () =
      match (explorer.walker disk dirs).enterFile disk path prefix_ depth trail () with
      | (.error e, s) => (.error e, s)
      | (.ok (abs, cfg, tree), s) => (.ok (abs, cfg, f.eval prefix_ tree), s) := by
  simp only [Walker.enterFile, walker, explorer]
  cases absolutize disk path with
  | error e => rfl
  | ok abs =>
    dsimp only
    by_cases hseen : Path.components abs ∈ trail.seen
    · rw [if_pos hseen, if_pos hseen]
    · rw [if_neg hseen, if_neg hseen]
      cases loadLocalConfig disk abs with
      | error e => rfl
      | ok cfg => rfl

lemma walkChildren_eq_outcome
    {recurse : String → String → Trail × Unit → Option (Outcome Unit β)}
    {recurse' : String → String → Trail × Unit → Option (Outcome Unit ConfigTree)}
    (hrec : ∀ path prefix_ s,
      recurse path prefix_ s = (recurse' path prefix_ s).map (f.outcome prefix_))
    (abs prefix_ : String) (children : List (String × Child)) (tree : ConfigTree)
    (s : Trail × Unit) :
    (f.walker disk dirs).walkChildren disk recurse abs prefix_ children (f.eval prefix_ tree) s =
      ((explorer.walker disk dirs).walkChildren disk recurse' abs prefix_ children tree s).map
        (f.outcome prefix_) := by
  induction children generalizing tree s with
  | nil => rfl
  | cons entry rest ih =>
    obtain ⟨name, child⟩ := entry
    obtain ⟨trail, state⟩ := s
    simp only [Walker.walkChildren]
    simp only [walker] at ih ⊢
    cases configPathInDir disk (dirs abs child) with
    | none => exact ih tree (trail, state)
    | some path =>
      dsimp only
      rw [hrec]
      cases recurse' path (qualifyName prefix_ child.prefix_) (trail, ()) with
      | none => rfl
      | some answer =>
        obtain ⟨result, s⟩ := answer
        cases result with
        | ok sub => exact ih (.adopt tree name child sub) s
        | error e =>
          simp only [Option.map_some, outcome, Except.map]
          split
          · exact ih tree (s.1, ())
          · rfl

lemma walk_eq_outcome (fuel : Nat) (path prefix_ : String) (depth : Nat) (s : Trail × Unit) :
    (f.walker disk dirs).walk disk fuel path prefix_ depth s =
      (explore disk dirs fuel path prefix_ depth s).map (f.outcome prefix_) := by
  unfold explore
  induction fuel generalizing path prefix_ depth s with
  | zero => rfl
  | succ fuel ih =>
    obtain ⟨trail, state⟩ := s
    rw [Walker.walk, Walker.walk, enterFile_eq_outcome]
    cases (explorer.walker disk dirs).enterFile disk path prefix_ depth trail () with
    | mk result s =>
      cases result with
      | error e => rfl
      | ok entered =>
        obtain ⟨abs, cfg, tree⟩ := entered
        dsimp only
        rw [f.walkChildren_eq_outcome fun path prefix_ s => ih path prefix_ (depth + 1) s,
          Option.map_map, Option.map_map]
        congr 1
        funext answer
        obtain ⟨result, s⟩ := answer
        cases result with
        | error e => rfl
        | ok tree => rfl

end Fold

/-! ## Walks with checks -/

structure Tracks (w : Walker σ α) (disk : Disk) (dirs : String → Child → String)
    (Q : String → Nat → σ → α → ConfigTree → σ → Prop) : Prop where
  load : ∀ abs, w.load abs = (loadLocalConfig disk abs).mapError .load
  childDir : ∀ {abs cfg} {name : String} {child}, Path.isAbsolute abs = true →
    loadLocalConfig disk abs = .ok cfg → cfg.children[name]? = some child →
    w.childDir abs child = dirs abs child
  childPrefix : ∀ {abs cfg} {name : String} {child}, loadLocalConfig disk abs = .ok cfg →
    cfg.children[name]? = some child → w.childPrefix name child = child.prefix_
  enter : ∀ {abs prefix_ depth s cfg s' a}, w.accept s abs depth = .ok () →
    w.enter s abs prefix_ cfg = .ok (s', a) → Q prefix_ depth s a (.file abs cfg) s'
  skip : ∀ {prefix_ depth s a tree s₁ abs name dir child s₂}, Q prefix_ depth s a tree s₁ →
    w.claim s₁ abs name dir (qualifyName prefix_ child) = .ok s₂ →
    Q prefix_ depth s a tree (w.unclaim s₂ (qualifyName prefix_ child))
  adopt : ∀ {prefix_ depth s a tree s₁ abs name dir child s₂ b sub s₃},
    Q prefix_ depth s a tree s₁ →
    w.claim s₁ abs name dir (qualifyName prefix_ child.prefix_) = .ok s₂ →
    Q (qualifyName prefix_ child.prefix_) (depth + 1) s₂ b sub s₃ →
    Q prefix_ depth s (w.adopt a name child b) (.adopt tree name child sub) s₃

namespace Tracks

variable {w : Walker σ α} {disk : Disk} {dirs : String → Child → String}
  {Q : String → Nat → σ → α → ConfigTree → σ → Prop}
  {a : α} {depth : Nat} {path prefix_ : String} {s s' : σ} {trail trail' : Trail}

variable (h : Tracks w disk dirs Q)
include h

lemma enterFile {abs : String} {cfg : Config}
    (henter : w.enterFile disk path prefix_ depth trail s = (.ok (abs, cfg, a), (trail', s'))) :
    Path.isAbsolute abs = true ∧ loadLocalConfig disk abs = .ok cfg ∧
      (explorer.walker disk dirs).enterFile disk path prefix_ depth trail () =
        (.ok (abs, cfg, .file abs cfg), (trail', ())) ∧
      Q prefix_ depth s a (.file abs cfg) s' := by
  obtain ⟨hpath, hseen, haccept, hload, s₁, henter, hs⟩ := Walker.enterFile_eq_ok henter
  cases hs
  rw [h.load, Result.mapError_eq_ok] at hload
  refine ⟨isAbsolute_absolutize hpath, hload, ?_, h.enter haccept henter⟩
  simp [Walker.enterFile, Fold.walker, explorer, hpath, hseen, hload, Except.mapError]

lemma enterFile_missing {e : TreeError}
    (henter : w.enterFile disk path prefix_ depth trail s = (.error e, (trail', s')))
    (he : isMissingFile e = true) :
    s' = s ∧ (explorer.walker disk dirs).enterFile disk path prefix_ depth trail () =
      (.error e, (trail', ())) := by
  rcases Walker.enterFile_missing henter he with
    ⟨e', hpath, rfl, hs⟩ | ⟨abs, hpath, hseen, _, hload, hs⟩
  · cases hs
    exact ⟨rfl, by simp [Walker.enterFile, hpath]⟩
  · cases hs
    rw [h.load] at hload
    refine ⟨rfl, ?_⟩
    simp [Walker.enterFile, Fold.walker, hpath, hseen, hload]

lemma walkChildren {recurse : String → String → Trail × σ → Option (Outcome σ α)}
    {recurse' : String → String → Trail × Unit → Option (Outcome Unit ConfigTree)} {abs : String}
    {cfg : Config} (habs : Path.isAbsolute abs = true) (hload : loadLocalConfig disk abs = .ok cfg)
    (hok : ∀ {path prefix_ trail s b trail' s'},
      recurse path prefix_ (trail, s) = some (.ok b, (trail', s')) →
      ∃ sub, recurse' path prefix_ (trail, ()) = some (.ok sub, (trail', ())) ∧
      Q prefix_ (depth + 1) s b sub s')
    (hmissing : ∀ {path prefix_ trail s e trail' s'},
      recurse path prefix_ (trail, s) = some (.error e, (trail', s')) →
      isMissingFile e = true →
      s' = s ∧ recurse' path prefix_ (trail, ()) = some (.error e, (trail', ())))
    {children : List (String × Child)}
    (hchildren : ∀ name child, (name, child) ∈ children → cfg.children[name]? = some child) {s₀ : σ}
    {tree : ConfigTree} {a' : α} (hQ : Q prefix_ depth s₀ a tree s)
    (hwalk : w.walkChildren disk recurse abs prefix_ children a (trail, s) =
      some (.ok a', (trail', s'))) :
    ∃ tree', (explorer.walker disk dirs).walkChildren disk recurse' abs prefix_ children tree
        (trail, ()) = some (.ok tree', (trail', ())) ∧ Q prefix_ depth s₀ a' tree' s' := by
  induction children generalizing a tree trail s with
  | nil =>
    cases hwalk
    exact ⟨tree, rfl, hQ⟩
  | cons entry rest ih =>
    obtain ⟨name, child⟩ := entry
    have hchild := hchildren name child List.mem_cons_self
    have hrest : ∀ name child, (name, child) ∈ rest → cfg.children[name]? = some child :=
      fun name child hmem => hchildren name child (List.mem_cons_of_mem _ hmem)
    simp only [Walker.walkChildren] at hwalk ⊢
    rw [h.childDir habs hload hchild, h.childPrefix hload hchild] at hwalk
    simp only [Fold.walker] at ih ⊢
    split at hwalk
    · exact ih hrest hQ hwalk
    · split at hwalk
      · cases hwalk
      · rename_i hclaim
        split at hwalk
        · cases hwalk
        · rename_i hrec
          obtain ⟨sub, hsub, hQsub⟩ := hok hrec
          rw [hsub]
          exact ih hrest (h.adopt hQ hclaim hQsub) hwalk
        · rename_i hrec
          split at hwalk
          · rename_i he
            obtain ⟨rfl, hsub⟩ := hmissing hrec he
            rw [hsub]
            dsimp only
            rw [if_pos he]
            exact ih hrest (h.skip hQ hclaim) hwalk
          · cases hwalk

/-- Where a walk gets through, the walk without checks gets through along the same
files. -/
theorem walk {fuel : Nat}
    (hwalk : w.walk disk fuel path prefix_ depth (trail, s) = some (.ok a, (trail', s'))) :
    ∃ tree, explore disk dirs fuel path prefix_ depth (trail, ()) =
      some (.ok tree, (trail', ())) ∧ Q prefix_ depth s a tree s' := by
  induction fuel generalizing path prefix_ depth trail trail' s s' a with
  | zero => cases hwalk
  | succ fuel ih =>
    obtain ⟨abs, cfg, a₀, ⟨trail₁, s₁⟩, ⟨trail₂, s₂⟩, henter, hchildren, hs⟩ :=
      Walker.walk_eq_ok hwalk
    cases hs
    obtain ⟨habs, hload, henter, hQ⟩ := h.enterFile henter
    obtain ⟨tree, htree, hQ⟩ := h.walkChildren habs hload (fun hrec => ih hrec)
      (fun hrec he => by
        obtain ⟨rfl, hmissing⟩ := h.enterFile_missing (Walker.walk_missing hrec he) he
        cases fuel with
        | zero => cases hrec
        | succ fuel =>
          refine ⟨rfl, ?_⟩
          rw [explore, Walker.walk, hmissing])
      (fun name child hmem => Std.ExtTreeMap.mem_toList_iff_getElem?_eq_some.mp hmem) hQ
      hchildren
    refine ⟨tree, ?_, hQ⟩
    rw [explore, Walker.walk, henter]
    dsimp only
    unfold explore at htree
    rw [htree]
    rfl

end Tracks

end Ax.Config
