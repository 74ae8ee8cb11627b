import Ax.Config.Validate

/-!
# Cycles of children references

In a file system without symbolic links, following the references of children may lead
back to a file.  The validation follows them in the order of the names and stops at the first
one that fails a test.  It recognises a file by the components of its path, so the test that
fails is the one for cycles if a file that is being loaded is spelled alike, and if no other
test fails before.  It is not if the file is reached again through `..`.

Main results:

- Theorem `load_cycle_iff`: when loading a project ends with a cycle error.
- Theorem `load_dotDotChild`: a cycle that is not found.
-/

namespace Ax.Config

def TreeError.isCycle : TreeError → Bool
  | .cycle _ => true
  | .child _ _ source => source.isCycle
  | _ => false

/-! ## Following references -/

/-- A reference on the way from the root: the names of the children, the prefix, and the files
that are being loaded above the file that it leads to. -/
structure Visit where
  names : List String
  prefix_ : String
  files : List String
  abs : String
deriving DecidableEq, Repr

namespace Visit

/-- The root. -/
def start (abs : String) : Visit where
  names := []
  prefix_ := ""
  files := []
  abs := abs

/-- The file is spelled like one that is being loaded. -/
def Repeats (v : Visit) : Prop :=
  Path.components v.abs ∈ v.files.map Path.components

instance (v : Visit) : Decidable v.Repeats :=
  inferInstanceAs (Decidable (_ ∈ _))

/-- The reference to a child, if the child has a configuration. -/
def child? (fs : FileSystem) (v : Visit) (name : String) (child : Child) : Option Visit :=
  match configPathInDir fs.disk (validationDir fs.disk v.abs child) with
  | none => none
  | some path =>
    match absolutize fs.disk path with
    | .error _ => none
    | .ok next =>
      some ⟨v.names ++ [name], qualifyName v.prefix_ child.prefix_, v.files ++ [v.abs], next⟩

def children (fs : FileSystem) (v : Visit) : List Visit :=
  if v.Repeats then []
  else
    match loadLocalConfig fs.disk v.abs with
    | .error _ => []
    | .ok cfg => cfg.children.toList.filterMap fun entry => v.child? fs entry.1 entry.2

/-- The references from a file on, each before those below it and in the order of the names, to a
depth of `fuel` files. -/
def order (fs : FileSystem) : Nat → Visit → List Visit
  | 0, v => [v]
  | fuel + 1, v => v :: (v.children fs).flatMap (order fs fuel)

lemma eq_of_child? {fs : FileSystem} {v w : Visit} {name : String} {child : Child}
    (h : v.child? fs name child = some w) :
    ∃ path, configPathInDir fs.disk (validationDir fs.disk v.abs child) = some path ∧
      absolutize fs.disk path = .ok w.abs ∧
      w = ⟨v.names ++ [name], qualifyName v.prefix_ child.prefix_, v.files ++ [v.abs], w.abs⟩ := by
  unfold child? at h
  split at h
  · cases h
  · rename_i path hpath
    split at h
    · cases h
    · rename_i next hnext
      cases h
      exact ⟨path, hpath, hnext, rfl⟩

lemma order_eq_cons (fs : FileSystem) (fuel : Nat) (v : Visit) :
    ∃ rest, v.order fs fuel = v :: rest := by
  cases fuel <;> exact ⟨_, rfl⟩

end Visit

/-! ## Files that are there -/

namespace FileSystem

variable {fs : FileSystem} {path abs : String}

lemma locate_absolutize (hne : path ≠ "") (h : absolutize fs.disk path = .ok abs) :
    fs.locate abs = fs.locate path := by
  have habs := isAbsolute_absolutize h
  unfold absolutize at h
  split at h
  · cases h
    rfl
  rename_i hrelative
  split at h
  · cases h
  rename_i cwd hcwd
  cases h
  have hcwd : fs.currentDir = .ok cwd := hcwd
  have hjoin : Path.join cwd path ≠ "" := by
    intro hempty
    rw [hempty] at habs
    cases habs
  rw [locate, if_neg hjoin, if_pos habs, locate, if_neg hne, if_neg hrelative, hcwd]
  dsimp only
  rw [Path.join, if_neg hrelative]
  split
  · rename_i hend
    rcases hend with hnil | hlast
    · have hhead := fs.isAbsolute_currentDir cwd hcwd
      rw [Path.isAbsolute, List.getLast?_eq_none_iff.mp hnil] at hhead
      cases hhead
    · -- The working directory ends with its own separator.
      obtain ⟨cs, hcs⟩ := List.getLast?_eq_some_iff.mp hlast
      have hdir : cwd = String.ofList cs ++ "/" ++ "" :=
        String.toList_injective (by simpa using hcs)
      have hempty : Path.segments "" = [""] := by decide
      have hpath : Path.segments path ≠ [] := by simp [Path.segments, List.splitOn]
      rw [hdir, Path.segments_append_slash, hempty, List.append_assoc, List.singleton_append,
        FileTree.followAll_append, String.append_empty, Path.segments_append_slash,
        FileTree.followAll_append]
      congr 1
      funext here
      exact (FileTree.followAll_filler _ here hpath).symm
  · rw [Path.segments_append_slash]

lemma isFile_of_configPathInDir {dir : String} (h : configPathInDir fs.disk dir = some path) :
    fs.isFile path = true := by
  unfold configPathInDir at h
  split at h
  · rename_i hfile
    cases h
    exact hfile
  · split at h
    · rename_i hfile
      cases h
      exact hfile
    · cases h

lemma exists_absolutize {dir : String} (h : configPathInDir fs.disk dir = some path) :
    ∃ abs, absolutize fs.disk path = .ok abs := by
  have hfile := isFile_of_configPathInDir h
  unfold absolutize
  split
  · exact ⟨path, rfl⟩
  · rename_i habs
    split
    · rename_i e hcwd
      change fs.currentDir = .error e at hcwd
      unfold isFile locate at hfile
      rw [if_neg habs, hcwd] at hfile
      split at hfile
      · cases hfile
      · rename_i hlocate
        split at hlocate <;> cases hlocate
    · exact ⟨_, rfl⟩

lemma isMissingFile_of_found {dir : String} {e : LoadError}
    (hfound : configPathInDir fs.disk dir = some path) (habs : absolutize fs.disk path = .ok abs)
    (h : loadLocalConfig fs.disk abs = .error e) : isMissingFile (.load e) = false := by
  have hfile := isFile_of_configPathInDir hfound
  have hne : path ≠ "" := by
    rintro rfl
    cases hfile
  obtain ⟨document, hread⟩ : ∃ document, fs.disk.read abs = .ok document := by
    change ∃ document, fs.read abs = .ok document
    unfold isFile at hfile
    rw [read, locate_absolutize hne habs]
    split at hfile
    · cases hfile
    · rename_i location hlocate
      split at hfile
      · rename_i document hnode
        exact ⟨document, by simp [hlocate, hnode]⟩
      · cases hfile
  unfold loadLocalConfig readLocal readDocument at h
  rw [hread] at h
  dsimp only at h
  cases hdecode : document >>= configCodec.decode with
  | error reason =>
    rw [hdecode] at h
    cases h
    rfl
  | ok cfg =>
    rw [hdecode] at h
    cases hoverlay : applyManagedOverlay fs.disk (initializeLocal cfg abs) abs with
    | ok merged =>
      simp only [Except.mapError, bind, Except.bind, hoverlay] at h
      cases h
    | error e' =>
      simp only [Except.mapError, bind, Except.bind, hoverlay] at h
      cases h
      unfold applyManagedOverlay ManagedOverlay.loadFor at hoverlay
      dsimp only at hoverlay
      repeat' split at hoverlay
      · cases hoverlay
      · rename_i hkind
        cases hoverlay
        exact decide_eq_false hkind
      · rename_i found _
        cases hfound : found >>= overlayCodec.decode with
        | ok overlay => simp [hfound, Except.mapError, Except.map] at hoverlay
        | error reason =>
          simp only [hfound, Except.mapError, Except.map] at hoverlay
          cases hoverlay
          rfl
      · cases hoverlay

end FileSystem

/-! ## The tests -/

section Tests

variable (fs : FileSystem) (root : Config) (fuel : Nat)

/-- The prefix and the session name of a child are free after the references before it. -/
def Claimable (before : List Visit) (v : Visit) : Prop :=
  v.names ≠ [] → (∀ w ∈ before, w.names ≠ [] → w.prefix_ ≠ v.prefix_) ∧
    ∀ w ∈ before, ∀ cfg, loadLocalConfig fs.disk w.abs = .ok cfg → ∀ name ∈ cfg.workspaces,
      qualifyName w.prefix_ name ≠ orchestratorSessionName v.prefix_

/-- The file loads within the caps of the root, and none of its workspaces has the session name of
an orchestrator at or before it. -/
def Enterable (before : List Visit) (v : Visit) : Prop :=
  (root.maxOrchestratorDepth.val ≠ 0 → v.files.length ≤ root.maxOrchestratorDepth) ∧
    ∃ cfg, loadLocalConfig fs.disk v.abs = .ok cfg ∧
      (root.maxChildrenPerNode.val ≠ 0 → cfg.children.size ≤ root.maxChildrenPerNode) ∧
      ∀ name ∈ cfg.workspaces, ∀ w ∈ before ++ [v],
        (w.names = [] → root.disableRootOrchestrator = false) →
          orchestratorSessionName w.prefix_ ≠ qualifyName v.prefix_ name

/-- A reference closes a cycle: the test that it fails is the one for files being loaded. -/
def Closes (before : List Visit) (v : Visit) : Prop :=
  Claimable fs before v ∧ v.files.length < fuel ∧ v.Repeats

def Passes (before : List Visit) (v : Visit) : Prop :=
  Claimable fs before v ∧ v.files.length < fuel ∧ ¬v.Repeats ∧ Enterable fs root before v

/-- All of the references pass, each after those before it. -/
def Clear (before : List Visit) : List Visit → Prop
  | [] => True
  | v :: rest => Passes fs root fuel before v ∧ Clear (before ++ [v]) rest

/-- The first of the references that does not pass closes a cycle. -/
def CycleFirst (before : List Visit) : List Visit → Prop
  | [] => False
  | v :: rest =>
    Closes fs fuel before v ∨ Passes fs root fuel before v ∧ CycleFirst (before ++ [v]) rest

variable {fs root fuel} {before visits more : List Visit}

lemma clear_append : Clear fs root fuel before (visits ++ more) ↔
    Clear fs root fuel before visits ∧ Clear fs root fuel (before ++ visits) more := by
  induction visits generalizing before with
  | nil => simp [Clear]
  | cons v rest ih => simp [Clear, ih, and_assoc]

lemma cycleFirst_append : CycleFirst fs root fuel before (visits ++ more) ↔
    CycleFirst fs root fuel before visits ∨
      Clear fs root fuel before visits ∧ CycleFirst fs root fuel (before ++ visits) more := by
  induction visits generalizing before with
  | nil => simp [Clear, CycleFirst]
  | cons v rest ih =>
    simp only [Clear, CycleFirst, List.cons_append, ih, List.append_assoc]
    tauto

lemma not_cycleFirst_of_clear (h : Clear fs root fuel before visits) :
    ¬CycleFirst fs root fuel before visits := by
  induction visits generalizing before with
  | nil => exact not_false
  | cons v rest ih =>
    rintro (hcloses | ⟨-, hrest⟩)
    · exact h.1.2.2.1 hcloses.2.2
    · exact ih h.2 hrest

end Tests

/-! ## Claims on the way -/

/-- The claims of the references in `claimed`, of which those in `entered` were loaded. -/
structure ClaimsOf (fs : FileSystem) (root : Config) (claimed entered : List Visit)
    (s : ValidationState) : Prop where
  maxDepth : s.maxDepth = root.maxOrchestratorDepth
  maxChildren : s.maxChildren = root.maxChildrenPerNode
  prefixes : ∀ k, k ∈ s.childPrefixes ↔ ∃ w ∈ claimed, w.names ≠ [] ∧ w.prefix_ = k
  workspaces : ∀ k, k ∈ s.workspaces ↔ ∃ w ∈ entered, ∃ cfg,
    loadLocalConfig fs.disk w.abs = .ok cfg ∧ ∃ name ∈ cfg.workspaces,
      qualifyName w.prefix_ name = k
  orchestrators : ∀ k, k ∈ s.orchestrators ↔ ∃ w ∈ claimed,
    (w.names = [] → root.disableRootOrchestrator = false) ∧ orchestratorSessionName w.prefix_ = k

namespace ClaimsOf

variable {fs : FileSystem} {root : Config} {before : List Visit} {s s' : ValidationState}
  {u : Unicode} {v : Visit}

lemma initial (fs : FileSystem) (abs : String) (root : Config) :
    ClaimsOf fs root [.start abs] [] (initialClaims abs root) where
  maxDepth := rfl
  maxChildren := rfl
  prefixes k := by simp [initialClaims, Visit.start]
  workspaces k := by simp [initialClaims]
  orchestrators k := by
    cases hdisabled : root.disableRootOrchestrator with
    | true => simp [initialClaims, Visit.start, hdisabled]
    | false => simp [initialClaims, Visit.start, hdisabled, Std.ExtTreeMap.mem_insert]

lemma claimable (h : ClaimsOf fs root before before s) {path name dir : String}
    (hclaim : claimChild s path name dir v.prefix_ = .ok s') :
    Claimable fs before v := by
  intro _
  obtain ⟨hpre, hsession, -⟩ := claimChild_eq_ok hclaim
  rw [h.prefixes] at hpre
  rw [h.workspaces] at hsession
  exact ⟨fun w hw hne hsame => hpre ⟨w, hw, hne, hsame⟩,
    fun w hw cfg hload name hname hsame => hsession ⟨w, hw, cfg, hload, name, hname, hsame⟩⟩

lemma claimChild (h : ClaimsOf fs root before before s) (hne : v.names ≠ [])
    {path name dir : String} (hclaim : Config.claimChild s path name dir v.prefix_ = .ok s') :
    ClaimsOf fs root (before ++ [v]) before s' := by
  obtain ⟨-, -, claim, claim', rfl⟩ := claimChild_eq_ok hclaim
  refine ⟨h.maxDepth, h.maxChildren, fun k => ?_, h.workspaces, fun k => ?_⟩
  · rw [Std.ExtTreeMap.mem_insert, h.prefixes]
    simp [hne, or_and_right, exists_or, or_comm]
  · rw [Std.ExtTreeMap.mem_insert, h.orchestrators]
    simp [hne, or_and_right, exists_or, or_comm]

lemma exists_claimChild (h : ClaimsOf fs root before before s) (hne : v.names ≠ [])
    (hclaimable : Claimable fs before v) (path name dir : String) :
    ∃ s', Config.claimChild s path name dir v.prefix_ = .ok s' := by
  obtain ⟨hpre, hsession⟩ := hclaimable hne
  refine Config.exists_claimChild ?_ ?_
  · rw [h.prefixes]
    rintro ⟨w, hw, hwne, hsame⟩
    exact hpre w hw hwne hsame
  · rw [h.workspaces]
    rintro ⟨w, hw, cfg, hload, name, hname, hsame⟩
    exact hsession w hw cfg hload name hname hsame

lemma mem_workspaces_iff {cfg : Config} {name : String} :
    name ∈ cfg.workspaces ↔ ∃ entry ∈ cfg.workspaces.toList, entry.1 = name := by
  rw [← Std.ExtTreeMap.mem_keys, ← Std.ExtTreeMap.map_fst_toList_eq_keys, List.mem_map]

lemma claimFile (h : ClaimsOf fs root (before ++ [v]) before s) {cfg : Config}
    (hload : loadLocalConfig fs.disk v.abs = .ok cfg)
    (hclaim : Config.claimFile u s v.abs v.prefix_ cfg = .ok s') :
    ClaimsOf fs root (before ++ [v]) (before ++ [v]) s' := by
  obtain ⟨-, hclaim⟩ := claimFile_eq_ok hclaim
  obtain ⟨hstate, hkeys, -⟩ := claimWorkspaces_eq_ok hclaim
  rw [hstate]
  refine ⟨h.maxDepth, h.maxChildren, h.prefixes, fun k => ?_, h.orchestrators⟩
  rw [hkeys, h.workspaces]
  simp [hload, mem_workspaces_iff, or_and_right, exists_or]

lemma checkDepth_eq_ok {abs : String} {depth : Nat} :
    checkDepth s abs depth = .ok () ↔ (s.maxDepth ≠ 0 → depth ≤ s.maxDepth) := by
  unfold checkDepth
  split
  · rename_i h
    exact iff_of_false (fun h => nomatch h) fun hle => absurd (hle h.1) (Nat.not_le_of_lt h.2)
  · rename_i h
    exact iff_of_true rfl fun hne => Nat.le_of_not_lt fun hlt => h ⟨hne, hlt⟩

lemma enterable_iff (h : ClaimsOf fs root (before ++ [v]) before s) {cfg : Config}
    (hload : loadLocalConfig fs.disk v.abs = .ok cfg) :
    Enterable fs root before v ↔ checkDepth s v.abs v.files.length = .ok () ∧
      ∃ s', Config.claimFile u s v.abs v.prefix_ cfg = .ok s' := by
  have hsessions (name : String) : (∀ w ∈ before ++ [v],
      (w.names = [] → root.disableRootOrchestrator = false) →
        orchestratorSessionName w.prefix_ ≠ qualifyName v.prefix_ name) ↔
      qualifyName v.prefix_ name ∉ s.orchestrators := by
    rw [h.orchestrators]
    simp only [not_exists, not_and]
  unfold Enterable
  rw [checkDepth_eq_ok, h.maxDepth]
  simp only [hsessions]
  refine and_congr_right fun _ => ?_
  constructor
  · rintro ⟨cfg', hload', hchildren, hapart⟩
    obtain rfl := Except.ok.inj (hload.symm.trans hload')
    obtain ⟨s', hs'⟩ : ∃ s', claimWorkspaces u v.abs v.prefix_ cfg.workspaces.toList s = .ok s' :=
      exists_claimWorkspaces fun entry hentry =>
        hapart entry.1 (mem_workspaces_iff.mpr ⟨entry, hentry, rfl⟩)
    refine ⟨s', ?_⟩
    unfold Config.claimFile
    rw [if_neg, hs']
    rintro ⟨hne, hlt⟩
    rw [h.maxChildren] at hne hlt
    exact absurd (hchildren hne) (Nat.not_le_of_lt hlt)
  · rintro ⟨s', hclaim⟩
    obtain ⟨hchildren, hclaim⟩ := claimFile_eq_ok hclaim
    rw [h.maxChildren] at hchildren
    refine ⟨cfg, hload, hchildren, fun name hname => ?_⟩
    obtain ⟨entry, hentry, rfl⟩ := mem_workspaces_iff.mp hname
    exact (claimWorkspaces_eq_ok hclaim).2.2 entry hentry

end ClaimsOf

/-! ## The walk -/

section Walk

variable {fs : FileSystem} {root : Config} {u : Unicode} {limit : Nat}

/-- What the validation answers after the references in `before`, given those that it goes on to:
it gets through them if they are clear, and else ends with an error, which is a cycle if the first
one that does not pass closes one. -/
def Settles (fs : FileSystem) (root : Config) (limit : Nat) (before visits : List Visit)
    (seen : Finset (List String)) : Option (Outcome ValidationState Unit) → Prop
  | none => ¬Clear fs root limit before visits ∧ ¬CycleFirst fs root limit before visits
  | some (.error e, _) => ¬Clear fs root limit before visits ∧ isMissingFile e = false ∧
    (e.isCycle = true ↔ CycleFirst fs root limit before visits)
  | some (.ok (), (trail, s)) => Clear fs root limit before visits ∧ trail.seen = seen ∧
    ClaimsOf fs root (before ++ visits) (before ++ visits) s

variable {before : List Visit} {trail : Trail} {s : ValidationState} {v : Visit}

lemma settles_of_fails {e : TreeError} {state : Trail × ValidationState} {visits : List Visit}
    {seen : Finset (List String)} (hfails : ¬Passes fs root limit before v)
    (hcloses : ¬Closes fs limit before v) (hmissing : isMissingFile e = false)
    (hcycle : e.isCycle = false) :
    Settles fs root limit before (v :: visits) seen (some (.error e, state)) := by
  refine ⟨fun h => hfails h.1, hmissing, ?_⟩
  rw [hcycle]
  refine iff_of_false Bool.false_ne_true ?_
  rintro (h | ⟨h, -⟩)
  · exact hcloses h
  · exact hfails h

section Append

variable {visits more : List Visit} {seen : Finset (List String)}

lemma Settles.append_none (h : Settles fs root limit before visits seen none) :
    Settles fs root limit before (visits ++ more) seen none := by
  refine ⟨fun hclear => h.1 (clear_append.mp hclear).1, fun hcycle => ?_⟩
  rcases cycleFirst_append.mp hcycle with hcycle | ⟨hclear, -⟩
  · exact h.2 hcycle
  · exact h.1 hclear

lemma Settles.append_error {e : TreeError} {state : Trail × ValidationState}
    (h : Settles fs root limit before visits seen (some (.error e, state))) {name dir : String} :
    Settles fs root limit before (visits ++ more) seen
      (some (.error (.child name dir e), state)) := by
  refine ⟨fun hclear => h.1 (clear_append.mp hclear).1, rfl, ?_⟩
  rw [cycleFirst_append, ← h.2.2]
  simp [TreeError.isCycle, h.1]

lemma Settles.append {answer : Option (Outcome ValidationState Unit)}
    (h : Settles fs root limit (before ++ visits) more seen answer)
    (hclear : Clear fs root limit before visits) :
    Settles fs root limit before (visits ++ more) seen answer := by
  have hmore : Clear fs root limit before (visits ++ more) ↔
      Clear fs root limit (before ++ visits) more := by
    rw [clear_append, and_iff_right hclear]
  have hcycle : CycleFirst fs root limit before (visits ++ more) ↔
      CycleFirst fs root limit (before ++ visits) more := by
    rw [cycleFirst_append, or_iff_right (not_cycleFirst_of_clear hclear), and_iff_right hclear]
  match answer, h with
  | none, h => exact ⟨hmore.not.mpr h.1, hcycle.not.mpr h.2⟩
  | some (.error e, _), h => exact ⟨hmore.not.mpr h.1, h.2.1, h.2.2.trans hcycle.symm⟩
  | some (.ok (), (trail, s)), h => exact ⟨hmore.mpr h.1, h.2.1, by simpa using h.2.2⟩

end Append

lemma walkChildren_settles {cfg : Config} (hload : loadLocalConfig fs.disk v.abs = .ok cfg)
    (fuel : Nat)
    (recurse : String → String → Trail × ValidationState → Option (Outcome ValidationState Unit))
    {seen : Finset (List String)}
    (hrec : ∀ (c : Visit) path before trail s, c.files = v.files ++ [v.abs] →
      absolutize fs.disk path = .ok c.abs →
      (∀ e, loadLocalConfig fs.disk c.abs = .error e → isMissingFile (.load e) = false) →
      trail.seen = seen → Claimable fs before c → ClaimsOf fs root (before ++ [c]) before s →
      Settles fs root limit before (c.order fs fuel) seen (recurse path c.prefix_ (trail, s)))
    {children : List (String × Child)}
    (hchildren : ∀ name child, (name, child) ∈ children → cfg.children[name]? = some child)
    (hseen : trail.seen = seen) (hclaims : ClaimsOf fs root before before s) :
    Settles fs root limit before
      ((children.filterMap fun entry => v.child? fs entry.1 entry.2).flatMap (Visit.order fs fuel))
      seen ((validator u fs.disk).walkChildren fs.disk recurse v.abs v.prefix_ children ()
        (trail, s)) := by
  induction children generalizing before trail s with
  | nil =>
    refine ⟨trivial, hseen, ?_⟩
    simpa using hclaims
  | cons entry rest ih =>
    obtain ⟨name, child⟩ := entry
    have hrest : ∀ name child, (name, child) ∈ rest → cfg.children[name]? = some child :=
      fun name child hmem => hchildren name child (List.mem_cons_of_mem _ hmem)
    have hpre : (if child.prefix_ = "" then name else child.prefix_) = child.prefix_ :=
      prefix_child hload (hchildren name child List.mem_cons_self)
    rw [Walker.walkChildren]
    simp only [validator, hpre] at ih ⊢
    cases hconfig : configPathInDir fs.disk (validationDir fs.disk v.abs child) with
    | none =>
      have hnone : v.child? fs name child = none := by
        unfold Visit.child?
        rw [hconfig]
      rw [List.filterMap_cons, hnone]
      exact ih hrest hseen hclaims
    | some path =>
      obtain ⟨next, hnext⟩ := FileSystem.exists_absolutize hconfig
      obtain ⟨c, hc⟩ : ∃ c, v.child? fs name child = some c := by
        unfold Visit.child?
        rw [hconfig]
        simp only
        rw [hnext]
        exact ⟨_, rfl⟩
      obtain ⟨path', hpath', habs, heq⟩ := Visit.eq_of_child? hc
      obtain rfl : path = path' := Option.some.inj (hconfig.symm.trans hpath')
      have hne : c.names ≠ [] := by
        rw [heq]
        simp
      have hcpre : qualifyName v.prefix_ child.prefix_ = c.prefix_ := by rw [heq]
      rw [List.filterMap_cons, hc]
      dsimp only
      rw [List.flatMap_cons, hcpre]
      cases hclaim : claimChild s v.abs name (validationDir fs.disk v.abs child) c.prefix_ with
      | error e =>
        have hnot : ¬Claimable fs before c := by
          intro hclaimable
          obtain ⟨s', hs'⟩ := hclaims.exists_claimChild hne hclaimable v.abs name
            (validationDir fs.disk v.abs child)
          cases hclaim.symm.trans hs'
        obtain ⟨below, hbelow⟩ := c.order_eq_cons fs fuel
        rw [hbelow, List.cons_append]
        obtain ⟨_, rfl⟩ := (validator u fs.disk).claim_error hclaim
        exact settles_of_fails (fun h => hnot h.1) (fun h => hnot h.1) rfl rfl
      | ok s₂ =>
        have hsettles := hrec c path before trail s₂ (by rw [heq]) habs
          (fun e => FileSystem.isMissingFile_of_found hconfig habs) hseen
          (hclaims.claimable hclaim) (hclaims.claimChild hne hclaim)
        dsimp only
        rcases hanswer : recurse path c.prefix_ (trail, s₂) with _ | ⟨e | _, trail₃, s₃⟩
        · rw [hanswer] at hsettles
          exact hsettles.append_none
        · rw [hanswer] at hsettles
          dsimp only
          rw [if_neg (by simp [hsettles.2.1])]
          exact hsettles.append_error
        · rw [hanswer] at hsettles
          exact (ih hrest hsettles.2.1 hsettles.2.2).append hsettles.1

lemma enterFile_error {path abs : String} {e : TreeError} {state : Trail × ValidationState}
    {prefix_ : String} {depth : Nat} (hpath : absolutize fs.disk path = .ok abs)
    (hseen : Path.components abs ∉ trail.seen)
    (h : (validator u fs.disk).enterFile fs.disk path prefix_ depth trail s = (.error e, state)) :
    (∃ source, e = .validation source) ∨
      ∃ source, e = .load source ∧ loadLocalConfig fs.disk abs = .error source := by
  simp only [Walker.enterFile, hpath, if_neg hseen] at h
  split at h
  · rename_i haccept
    cases h
    exact .inl ((validator u fs.disk).accept_error haccept)
  · split at h
    · rename_i hload
      cases h
      replace hload : loadValidatedConfig fs.disk abs = .error e := hload
      rw [loadValidatedConfig_eq] at hload
      cases hlocal : loadLocalConfig fs.disk abs with
      | ok cfg =>
        rw [hlocal] at hload
        cases hload
      | error source =>
        rw [hlocal] at hload
        cases hload
        exact .inr ⟨source, rfl, rfl⟩
    · split at h
      · rename_i henter
        cases h
        exact .inl ((validator u fs.disk).enter_error henter)
      · cases h

lemma enterFile_settles {path : String} (hpath : absolutize fs.disk path = .ok v.abs)
    (hmissing : ∀ e, loadLocalConfig fs.disk v.abs = .error e → isMissingFile (.load e) = false)
    (hlimit : v.files.length < limit) (hseen : Path.components v.abs ∈ trail.seen ↔ v.Repeats)
    (hclaimable : Claimable fs before v) (hclaims : ClaimsOf fs root (before ++ [v]) before s) :
    match (validator u fs.disk).enterFile fs.disk path v.prefix_ v.files.length trail s with
    | (.error e, state) => ∀ visits seen,
      Settles fs root limit before (v :: visits) seen (some (.error e, state))
    | (.ok (abs, cfg, _), (trail', s')) =>
      abs = v.abs ∧ loadLocalConfig fs.disk v.abs = .ok cfg ∧ Passes fs root limit before v ∧
        trail' = (trail.push v.abs).visit v.abs ∧
        ClaimsOf fs root (before ++ [v]) (before ++ [v]) s' := by
  by_cases hrepeats : v.Repeats
  · simp only [Walker.enterFile, hpath, if_pos (hseen.mpr hrepeats)]
    refine fun visits seen => ⟨fun h => h.1.2.2.1 hrepeats, rfl, ?_⟩
    exact iff_of_true rfl (.inl ⟨hclaimable, hlimit, hrepeats⟩)
  have hnot := hseen.not.mpr hrepeats
  have hpasses (cfg : Config) (hload : loadLocalConfig fs.disk v.abs = .ok cfg) :
      Passes fs root limit before v ↔ checkDepth s v.abs v.files.length = .ok () ∧
        ∃ s', claimFile u s v.abs v.prefix_ cfg = .ok s' := by
    rw [← hclaims.enterable_iff hload]
    exact ⟨fun h => h.2.2.2, fun h => ⟨hclaimable, hlimit, hrepeats, h⟩⟩
  split
  · rename_i e state henter
    refine fun visits seen => settles_of_fails (fun h => ?_) (fun h => hrepeats h.2.2) ?_ ?_
    · obtain ⟨cfg, hload, -⟩ := h.2.2.2.2
      obtain ⟨hdepth, s', hclaim⟩ := (hpasses cfg hload).mp h
      have hvalidated : loadValidatedConfig fs.disk v.abs = .ok cfg := by
        rw [loadValidatedConfig_eq, hload]
        rfl
      simp only [Walker.enterFile, validator, hpath, if_neg hnot, hdepth, hvalidated, hclaim,
        Except.map] at henter
      cases henter
    all_goals
      rcases enterFile_error hpath hnot henter with ⟨_, rfl⟩ | ⟨source, rfl, hload⟩
    · rfl
    · exact hmissing source hload
    · rfl
    · rfl
  · rename_i abs cfg _ trail' s' henter
    obtain ⟨habs, -, hdepth, hload, s₁, hclaim, hstate⟩ := Walker.enterFile_eq_ok henter
    obtain rfl := Except.ok.inj (hpath.symm.trans habs)
    replace hload : loadValidatedConfig fs.disk v.abs = .ok cfg := hload
    rw [loadValidatedConfig_eq, Result.mapError_eq_ok] at hload
    obtain ⟨s₂, hclaimed, hs⟩ := Result.map_eq_ok.mp hclaim
    cases hs
    cases hstate
    exact ⟨rfl, hload, (hpasses cfg hload).mpr ⟨hdepth, s', hclaimed⟩, rfl,
      hclaims.claimFile hload hclaimed⟩

lemma walk_settles {fuel : Nat} {path : String} (hpath : absolutize fs.disk path = .ok v.abs)
    (hmissing : ∀ e, loadLocalConfig fs.disk v.abs = .error e → isMissingFile (.load e) = false)
    (hfuel : fuel + v.files.length = limit)
    (hseen : trail.seen = (v.files.map Path.components).toFinset)
    (hclaimable : Claimable fs before v) (hclaims : ClaimsOf fs root (before ++ [v]) before s) :
    Settles fs root limit before (v.order fs fuel) trail.seen
      ((validator u fs.disk).walk fs.disk fuel path v.prefix_ v.files.length (trail, s)) := by
  induction fuel generalizing v path trail before s with
  | zero =>
    refine ⟨fun h => ?_, ?_⟩
    · have hlt := h.1.2.1
      omega
    · rintro (h | ⟨h, -⟩)
      · have hlt := h.2.1
        omega
      · have hlt := h.2.1
        omega
  | succ fuel ih =>
    have hmem : Path.components v.abs ∈ trail.seen ↔ v.Repeats := by
      rw [hseen, List.mem_toFinset]
      rfl
    have hlimit : v.files.length < limit := by omega
    have henter := enterFile_settles (u := u) hpath hmissing hlimit hmem hclaimable hclaims
    rw [Walker.walk, Visit.order]
    dsimp only
    split at henter
    · rename_i e state hanswer
      rw [hanswer]
      exact henter _ _
    · rename_i abs cfg _ trail' s' hanswer
      obtain ⟨rfl, hload, hpasses, rfl, hclaims'⟩ := henter
      have hrec : ∀ (c : Visit) path before trail' s, c.files = v.files ++ [v.abs] →
          absolutize fs.disk path = .ok c.abs →
          (∀ e, loadLocalConfig fs.disk c.abs = .error e → isMissingFile (.load e) = false) →
          trail'.seen = (trail.push v.abs).seen → Claimable fs before c →
          ClaimsOf fs root (before ++ [c]) before s →
          Settles fs root limit before (c.order fs fuel) (trail.push v.abs).seen
            ((validator u fs.disk).walk fs.disk fuel path c.prefix_ (v.files.length + 1)
              (trail', s)) := by
        intro c path before trail' s hfiles hpath hmissing hseen' hclaimable hclaims
        have hlength : c.files.length = v.files.length + 1 := by simp [hfiles]
        rw [← hlength, ← hseen']
        refine ih hpath hmissing (by omega) ?_ hclaimable hclaims
        rw [hseen', hfiles, Trail.push, hseen]
        ext other
        simp only [Finset.mem_insert, List.mem_toFinset, List.map_append, List.map_cons,
          List.map_nil, List.mem_append, List.mem_singleton]
        tauto
      have hloop := walkChildren_settles (u := u) hload fuel
        (fun path prefix_ s =>
          (validator u fs.disk).walk fs.disk fuel path prefix_ (v.files.length + 1) s) hrec
        (fun name child hmem => Std.ExtTreeMap.mem_toList_iff_getElem?_eq_some.mp hmem)
        (rfl : ((trail.push v.abs).visit v.abs).seen = (trail.push v.abs).seen) hclaims'
      have hchildren : v.children fs =
          cfg.children.toList.filterMap fun entry => v.child? fs entry.1 entry.2 := by
        unfold Visit.children
        rw [if_neg hpasses.2.2.1, hload]
      rw [← hchildren] at hloop
      have hclear : Clear fs root limit before [v] := ⟨hpasses, trivial⟩
      have hsettles := hloop.append hclear
      rw [hanswer]
      dsimp only
      rcases hwalk : (validator u fs.disk).walkChildren fs.disk
          (fun path prefix_ s =>
            (validator u fs.disk).walk fs.disk fuel path prefix_ (v.files.length + 1) s)
          v.abs v.prefix_ cfg.children.toList () ((trail.push v.abs).visit v.abs, s')
        with _ | ⟨e | _, trail₂, s₂⟩
      · rw [hwalk] at hsettles
        exact hsettles
      · rw [hwalk] at hsettles
        exact hsettles
      · rw [hwalk] at hsettles
        refine ⟨hsettles.1, ?_, hsettles.2.2⟩
        change trail₂.seen.erase (Path.components v.abs) = trail.seen
        rw [hsettles.2.1]
        exact Finset.erase_insert (hmem.not.mpr hpasses.2.2.1)

/-- When loading a project ends with a cycle error: if, and with an absolute home directory only
if, the first reference that fails a test of the validation leads to a file that is being loaded
and is spelled like it. -/
theorem load_cycle_iff {path abs : String} (hpath : absolutize fs.disk path = .ok abs)
    (hroot : loadLocalConfig fs.disk abs = .ok root) :
    ((∃ fuel, CycleFirst fs root fuel [] ((Visit.start abs).order fs fuel)) →
      ∃ fuel e, load u fs.disk fuel path = some (.error e) ∧ e.isCycle = true) ∧
    ((∀ dir, fs.home = some dir → Path.isAbsolute dir = true) →
      (∃ fuel e, load u fs.disk fuel path = some (.error e) ∧ e.isCycle = true) →
      ∃ fuel, CycleFirst fs root fuel [] ((Visit.start abs).order fs fuel)) := by
  have hwalk (fuel : Nat) : Settles fs root fuel [] ((Visit.start abs).order fs fuel) ∅
      (validateRecursive u fs.disk fuel abs "" 0 .start (initialClaims abs root)) :=
    walk_settles (v := .start abs) (absolutize_absolutize hpath)
      (fun e herror => nomatch hroot.symm.trans herror) rfl rfl (fun hne => absurd rfl hne)
      (ClaimsOf.initial fs abs root)
  have hvalidate (fuel : Nat) : validateTree u fs.disk fuel path =
      (validateRecursive u fs.disk fuel abs "" 0 .start (initialClaims abs root)).map
        fun outcome => (outcome.1, outcome.2.1) := by
    simp only [validateTree, hpath, loadValidatedConfig_eq, hroot]
    rfl
  constructor
  · rintro ⟨fuel, hcycle⟩
    refine ⟨fuel, ?_⟩
    specialize hwalk fuel
    rw [load, hvalidate]
    match hanswer : validateRecursive u fs.disk fuel abs "" 0 .start (initialClaims abs root) with
    | none =>
      rw [hanswer] at hwalk
      exact absurd hcycle hwalk.2
    | some (.error e, state) =>
      rw [hanswer] at hwalk
      exact ⟨e, rfl, hwalk.2.2.mpr hcycle⟩
    | some (.ok (), state) =>
      rw [hanswer] at hwalk
      exact absurd hcycle (not_cycleFirst_of_clear hwalk.1)
  · rintro hhome ⟨fuel, e, hload, hcycle⟩
    refine ⟨fuel, ?_⟩
    specialize hwalk fuel
    match hanswer : validateTree u fs.disk fuel path with
    | none =>
      rw [load, hanswer] at hload
      cases hload
    | some (.error e', trail) =>
      rw [load, hanswer] at hload
      cases hload
      rw [hvalidate] at hanswer
      obtain ⟨outcome, houtcome, heq⟩ := Option.map_eq_some_iff.mp hanswer
      obtain ⟨result, state⟩ := outcome
      cases heq
      rw [houtcome] at hwalk
      exact hwalk.2.2.mp hcycle
    | some (.ok (), trail) =>
      -- what the validation passes, the loader loads
      obtain ⟨_, _, s, -, -, hwalked⟩ := validateTree_eq_ok hanswer
      obtain ⟨tree, hexplore, -⟩ := (withinCaps_tracks (validationDir_eq hhome)).walk hwalked
      rw [load, hanswer] at hload
      dsimp only at hload
      rw [(loads_of_explore hexplore).1] at hload
      cases hload

end Walk

/-! ## Two cyclic projects -/

/-- A project `p` with a child in its own directory. -/
def selfChild : FileSystem :=
  .ofEntries none [FileSystem.project "p"
    { default with children := (∅ : BTreeMap String Child).insert "a" ⟨".", ""⟩ } []]

/-- The project with itself as a child: the second reference closes a cycle. -/
theorem cycleFirst_selfChild :
    ∃ root, loadLocalConfig selfChild.disk "/p/.ax/config.yaml" = .ok root ∧
      ∃ fuel, CycleFirst selfChild root fuel []
        ((Visit.start "/p/.ax/config.yaml").order selfChild fuel) := by
  have hloads : ((some (loadLocalConfig selfChild.disk "/p/.ax/config.yaml")).bind fun result =>
      result.toOption.map fun _ => ()) = some () := by
    decide +kernel
  have hcycle : load .ascii selfChild.disk 2 "/p/.ax/config.yaml" = some (.error
      (.child "a" "/p/." (.cycle "/p/./.ax/config.yaml"))) := by
    decide +kernel
  obtain ⟨root, hroot, -⟩ := Result.exists_ok_of_bind hloads
  have hload := Option.some.inj hroot
  refine ⟨root, hload, (load_cycle_iff (by rfl) hload).2 ?_ ⟨2, _, hcycle, rfl⟩⟩
  rintro dir hdir
  cases hdir

/-- A project `p` with a child in its own directory, reached through another one. -/
def dotDotChild : FileSystem :=
  .ofEntries none [FileSystem.project "p"
    { default with children := (∅ : BTreeMap String Child).insert "a" ⟨"sub/..", ""⟩ }
    [("sub", .dir [])]]

/-- The child of the project is the project itself, and loading it does not fail with a
cycle: the file is loaded four times over, until the cap on the depth is reached. -/
theorem load_dotDotChild :
    dotDotChild.isFile "/p/.ax/config.yaml" = true ∧
      dotDotChild.locate "/p/sub/../.ax/config.yaml" = dotDotChild.locate "/p/.ax/config.yaml" ∧
      load .ascii dotDotChild.disk 5 "/p/.ax/config.yaml" = some (.error
        (.child "a" "/p/sub/.." (.child "a" "/p/sub/../sub/.."
          (.child "a" "/p/sub/../sub/../sub/.." (.child "a" "/p/sub/../sub/../sub/../sub/.."
            (.validation (.orchestratorDepthExceeded 4 3
              "/p/sub/../sub/../sub/../sub/../.ax/config.yaml"))))))) := by
  decide +kernel

end Ax.Config
