import Ax.Config.FileSystem
import Ax.Config.Tree

/-!
# Validating a tree of configuration files

`validate_tree` is the walk with checks that both loads make first.  It claims a name for
every workspace, a prefix for every child and a session name for every orchestrator, and
has its own copy of the code that loads one file.

Main results:

- Theorem `loads_of_validateTree`: and so do both loaders, along the same files and
  within the caps of the root.
- Theorem `reserved_names`: no workspace has the session name of an orchestrator.
-/

namespace Ax.Config

/-! ## Claims -/

structure ChildPrefixClaim where
  configPath : String
  childName : String
  childDir : String
  prefix_ : String
deriving DecidableEq, Repr

structure WorkspaceClaim where
  configPath : String
  name : String
  mergedName : String
deriving DecidableEq, Repr

structure OrchestratorClaim where
  configPath : String
  childName : String
  childDir : String
  prefix_ : String
  sessionName : String
deriving DecidableEq, Repr

/-- `ValidationState`: the claims so far and the caps of the root; a cap of zero does not
count. -/
structure ValidationState where
  childPrefixes : BTreeMap String ChildPrefixClaim
  workspaces : BTreeMap String WorkspaceClaim
  orchestrators : BTreeMap String OrchestratorClaim
  maxDepth : Nat
  maxChildren : Nat

/-- `orchestrator_session_name`. -/
def orchestratorSessionName (prefix_ : String) : String :=
  if prefix_ = "" then "orchestrator" else s!"{prefix_}.orchestrator"

/-- `describe_orchestrator`. -/
def describeOrchestrator (u : Unicode) (claim : OrchestratorClaim) : String :=
  if claim.childName = "" then s!"the root orchestrator in {claim.configPath}"
  else
    s!"child {Text.debugStr u claim.childName} in {claim.configPath} -> {claim.childDir} " ++
      s!"(prefix {Text.debugStr u claim.prefix_}, orchestrator {Text.debugStr u claim.sessionName})"

def claimWorkspaces (u : Unicode) (abs prefix_ : String) :
    List (String × Workspace) → ValidationState → Except TreeError ValidationState
  | [], state => .ok state
  | (name, _) :: rest, state =>
    let mergedName := qualifyName prefix_ name
    match state.orchestrators[mergedName]? with
    | some existing =>
      .error (.validation (.reservedNameForWorkspace mergedName name abs
        (describeOrchestrator u existing)))
    | none =>
      claimWorkspaces u abs prefix_ rest
        { state with
          workspaces := state.workspaces.insertIfNew mergedName ⟨abs, name, mergedName⟩ }

def claimChild (state : ValidationState) (abs name dir claimPrefix : String) :
    Except TreeError ValidationState :=
  let session := orchestratorSessionName claimPrefix
  match state.childPrefixes[claimPrefix]? with
  | some existing =>
    .error (.validation (.duplicateChildPrefix claimPrefix existing.childName
      existing.configPath existing.childDir name abs dir))
  | none =>
    match state.workspaces[session]? with
    | some existing =>
      .error (.validation (.reservedNameForChild session name abs dir claimPrefix
        existing.name existing.configPath))
    | none =>
      .ok { state with
        childPrefixes := state.childPrefixes.insert claimPrefix
          { configPath := abs, childName := name, childDir := dir, prefix_ := claimPrefix }
        orchestrators := state.orchestrators.insert session
          { configPath := abs, childName := name, childDir := dir, prefix_ := claimPrefix
            sessionName := session } }

def unclaimChild (state : ValidationState) (claimPrefix : String) : ValidationState :=
  { state with
    childPrefixes := state.childPrefixes.erase claimPrefix
    orchestrators := state.orchestrators.erase (orchestratorSessionName claimPrefix) }

def checkDepth (state : ValidationState) (abs : String) (depth : Nat) : Except TreeError Unit :=
  if state.maxDepth ≠ 0 ∧ state.maxDepth < depth then
    .error (.validation (.orchestratorDepthExceeded depth state.maxDepth abs))
  else .ok ()

def claimFile (u : Unicode) (state : ValidationState) (abs prefix_ : String) (cfg : Config) :
    Except TreeError ValidationState :=
  -- The cast of the number of children to `u32` is left out: a file has fewer than `2 ^ 32`.
  if state.maxChildren ≠ 0 ∧ state.maxChildren < cfg.children.size then
    .error (.validation (.childrenPerNodeExceeded cfg.children.size state.maxChildren abs))
  else claimWorkspaces u abs prefix_ cfg.workspaces.toList state

/-! ## The walk -/

/-- `load_validated_config`. -/
def loadValidatedConfig (disk : Disk) (abs : String) : Except TreeError Config := do
  let cfg ← (readLocal disk abs).mapError .load
  let cfg :=
    if cfg.project = "" then
      { cfg with project := (Path.fileName (rootFromConfigPath abs)).getD "" }
    else cfg
  let cfg ← (applyManagedOverlay disk cfg abs).mapError .load
  let projectDir := rootFromConfigPath abs
  let fallbackEffort := Text.trim cfg.codexModelReasoningEffort
  let fallbackProvider := Text.trim cfg.defaultAgentProvider
  .ok { cfg with
    workspaces := cfg.workspaces.map fun _ ws =>
      { ws with
        dir := resolveDir disk.home projectDir ws.dir
        agentProvider :=
          if Text.trim ws.agentProvider = "" then fallbackProvider else ws.agentProvider
        codexModelReasoningEffort :=
          if Text.trim ws.codexModelReasoningEffort = "" then fallbackEffort
          else ws.codexModelReasoningEffort }
    children := cfg.children.map fun name child =>
      { dir := resolveDir disk.home projectDir child.dir
        prefix_ := if child.prefix_ = "" then name else child.prefix_ } }

def validationDir (disk : Disk) (abs : String) (child : Child) : String :=
  resolveDir disk.home (rootFromConfigPath abs) child.dir

variable {u : Unicode} {disk : Disk} {dirs : String → Child → String}

lemma claimWorkspaces_error {abs prefix_ : String} {entries : List (String × Workspace)}
    {s : ValidationState} {e : TreeError} (h : claimWorkspaces u abs prefix_ entries s = .error e) :
    ∃ source, e = .validation source := by
  induction entries generalizing s with
  | nil => cases h
  | cons entry rest ih =>
    simp only [claimWorkspaces] at h
    split at h
    · cases h
      exact ⟨_, rfl⟩
    · exact ih h

def validator (u : Unicode) (disk : Disk) : Walker ValidationState Unit where
  load := loadValidatedConfig disk
  accept := checkDepth
  enter state abs prefix_ cfg := (claimFile u state abs prefix_ cfg).map fun state => (state, ())
  childDir := validationDir disk
  childPrefix name child := if child.prefix_ = "" then name else child.prefix_
  claim := claimChild
  unclaim := unclaimChild
  adopt a _ _ _ := a
  accept_error h := by
    unfold checkDepth at h
    split at h
    · cases h
      exact ⟨_, rfl⟩
    · cases h
  enter_error h := by
    unfold claimFile at h
    split at h
    · cases h
      exact ⟨_, rfl⟩
    · generalize hclaim : claimWorkspaces _ _ _ _ _ = claimed at h
      cases claimed with
      | ok state => cases h
      | error e =>
        cases h
        exact claimWorkspaces_error hclaim
  claim_error h := by
    simp only [claimChild] at h
    repeat' split at h
    all_goals cases h
    all_goals exact ⟨_, rfl⟩

/-- `validate_recursive`. -/
def validateRecursive (u : Unicode) (disk : Disk) (fuel : Nat) (path prefix_ : String)
    (depth : Nat) (trail : Trail) (state : ValidationState) :
    Option (Outcome ValidationState Unit) :=
  (validator u disk).walk disk fuel path prefix_ depth (trail, state)

def initialClaims (abs : String) (root : Config) : ValidationState where
  childPrefixes := ∅
  workspaces := ∅
  orchestrators :=
    if root.disableRootOrchestrator then ∅
    else
      (∅ : BTreeMap String OrchestratorClaim).insert (orchestratorSessionName "")
        { configPath := abs, childName := "", childDir := "", prefix_ := ""
          sessionName := orchestratorSessionName "" }
  maxDepth := root.maxOrchestratorDepth
  maxChildren := root.maxChildrenPerNode

/-- `validate_tree`, with the files it went through. -/
def validateTree (u : Unicode) (disk : Disk) (fuel : Nat) (path : String) :
    Option (Except TreeError Unit × Trail) :=
  match absolutize disk path with
  | .error e => some (.error (.load e), .start)
  | .ok abs =>
    match loadValidatedConfig disk abs with
    | .error e => some (.error e, .start)
    | .ok root =>
      (validateRecursive u disk fuel abs "" 0 .start (initialClaims abs root)).map
        fun outcome => (outcome.1, outcome.2.1)

/-- `Config::load`. -/
def load (u : Unicode) (disk : Disk) (fuel : Nat) (path : String) :
    Option (Except TreeError Config) :=
  match validateTree u disk fuel path with
  | none => none
  | some (.error e, _) => some (.error e)
  | some (.ok (), _) => (loadRecursive disk fuel path .start).map Prod.fst

/-- `Config::load_tree`. -/
def loadTree (u : Unicode) (disk : Disk) (fuel : Nat) (path : String) :
    Option (Except TreeError ProjectNode) :=
  match validateTree u disk fuel path with
  | none => none
  | some (.error e, _) => some (.error e)
  | some (.ok (), _) => (loadTreeRecursive disk fuel path "" .start).map Prod.fst

/-! ## The same files -/

lemma loadValidatedConfig_eq (disk : Disk) (abs : String) :
    loadValidatedConfig disk abs = (loadLocalConfig disk abs).mapError .load := by
  unfold loadValidatedConfig loadLocalConfig
  cases readLocal disk abs with
  | error e => rfl
  | ok cfg =>
    simp only [Except.mapError, bind, Except.bind, initializeLocal]
    cases applyManagedOverlay disk _ abs with
    | error e => rfl
    | ok cfg => rfl

lemma validationDir_eq (hhome : ∀ dir, disk.home = some dir → Path.isAbsolute dir = true)
    {abs name : String} {cfg : Config} {child : Child} (habs : Path.isAbsolute abs = true)
    (hload : loadLocalConfig disk abs = .ok cfg) (hchild : cfg.children[name]? = some child) :
    validationDir disk abs child = ownDir abs child :=
  resolveDir_of_isAbsolute (isAbsolute_child hhome habs hload hchild)

section Specs

variable {u : Unicode} {abs prefix_ : String} {s s' : ValidationState}

lemma claimWorkspaces_eq_ok {entries : List (String × Workspace)}
    (h : claimWorkspaces u abs prefix_ entries s = .ok s') :
    s' = { s with workspaces := s'.workspaces } ∧
      (∀ k, k ∈ s'.workspaces ↔
        k ∈ s.workspaces ∨ ∃ entry ∈ entries, qualifyName prefix_ entry.1 = k) ∧
      ∀ entry ∈ entries, qualifyName prefix_ entry.1 ∉ s.orchestrators := by
  induction entries generalizing s with
  | nil =>
    cases h
    exact ⟨rfl, by simp, by simp⟩
  | cons entry rest ih =>
    simp only [claimWorkspaces] at h
    split at h
    · cases h
    · rename_i hnone
      obtain ⟨hs, hkeys, hfree⟩ := ih h
      refine ⟨hs, fun k => ?_, fun entry' hentry => ?_⟩
      · rw [hkeys]
        simp only [Std.ExtTreeMap.mem_insertIfNew, Std.LawfulEqOrd.compare_eq_iff_eq,
          List.mem_cons, exists_eq_or_imp]
        tauto
      · rcases List.mem_cons.mp hentry with rfl | hentry
        · rw [Std.ExtTreeMap.mem_iff_isSome_getElem?, hnone]
          simp
        · exact hfree entry' hentry

lemma exists_claimWorkspaces {entries : List (String × Workspace)}
    (h : ∀ entry ∈ entries, qualifyName prefix_ entry.1 ∉ s.orchestrators) :
    ∃ s', claimWorkspaces u abs prefix_ entries s = .ok s' := by
  induction entries generalizing s with
  | nil => exact ⟨s, rfl⟩
  | cons entry rest ih =>
    have hnone : s.orchestrators[qualifyName prefix_ entry.1]? = none := by
      simpa using h entry List.mem_cons_self
    simp only [claimWorkspaces, hnone]
    exact ih fun entry hentry => h entry (List.mem_cons_of_mem _ hentry)

lemma claimFile_eq_ok {cfg : Config} (h : claimFile u s abs prefix_ cfg = .ok s') :
    (s.maxChildren ≠ 0 → cfg.children.size ≤ s.maxChildren) ∧
      claimWorkspaces u abs prefix_ cfg.workspaces.toList s = .ok s' := by
  unfold claimFile at h
  split at h
  · cases h
  · rename_i hcap
    refine ⟨fun hne => ?_, h⟩
    by_contra hlt
    exact hcap ⟨hne, Nat.lt_of_not_le hlt⟩

lemma claimChild_eq_ok {name dir : String} (h : claimChild s abs name dir prefix_ = .ok s') :
    prefix_ ∉ s.childPrefixes ∧ orchestratorSessionName prefix_ ∉ s.workspaces ∧
      ∃ claim claim', s' = { s with
        childPrefixes := s.childPrefixes.insert prefix_ claim
        orchestrators := s.orchestrators.insert (orchestratorSessionName prefix_) claim' } := by
  simp only [claimChild] at h
  split at h
  · cases h
  · rename_i hpre
    split at h
    · cases h
    · rename_i hsession
      cases h
      refine ⟨?_, ?_, _, _, rfl⟩
      · rw [Std.ExtTreeMap.mem_iff_isSome_getElem?, hpre]
        simp
      · rw [Std.ExtTreeMap.mem_iff_isSome_getElem?, hsession]
        simp

lemma exists_claimChild {name dir : String} (hpre : prefix_ ∉ s.childPrefixes)
    (hsession : orchestratorSessionName prefix_ ∉ s.workspaces) :
    ∃ s', claimChild s abs name dir prefix_ = .ok s' := by
  have hpre : s.childPrefixes[prefix_]? = none := by simpa using hpre
  have hsession : s.workspaces[orchestratorSessionName prefix_]? = none := by simpa using hsession
  simp only [claimChild, hpre, hsession]
  exact ⟨_, rfl⟩

end Specs

lemma validator_tracks (hdirs : ∀ {abs cfg} {name : String} {child}, Path.isAbsolute abs = true →
      loadLocalConfig disk abs = .ok cfg → cfg.children[name]? = some child →
      validationDir disk abs child = dirs abs child)
    {Q : String → Nat → ValidationState → ConfigTree → ValidationState → Prop}
    (hfile : ∀ {abs prefix_ depth s cfg s'}, checkDepth s abs depth = .ok () →
      claimFile u s abs prefix_ cfg = .ok s' → Q prefix_ depth s (.file abs cfg) s')
    (hskip : ∀ {prefix_ depth s tree s₁ abs name dir child s₂}, Q prefix_ depth s tree s₁ →
      claimChild s₁ abs name dir (qualifyName prefix_ child) = .ok s₂ →
      Q prefix_ depth s tree (unclaimChild s₂ (qualifyName prefix_ child)))
    (hadopt : ∀ {prefix_ depth s tree s₁ abs name dir child s₂ sub s₃},
      Q prefix_ depth s tree s₁ →
      claimChild s₁ abs name dir (qualifyName prefix_ child.prefix_) = .ok s₂ →
      Q (qualifyName prefix_ child.prefix_) (depth + 1) s₂ sub s₃ →
      Q prefix_ depth s (.adopt tree name child sub) s₃) :
    Tracks (validator u disk) disk dirs fun prefix_ depth s _ tree s' =>
      Q prefix_ depth s tree s' where
  load := loadValidatedConfig_eq disk
  childDir := hdirs
  childPrefix hload hchild := prefix_child hload hchild
  enter haccept henter := by
    obtain ⟨s', hclaim, hs⟩ := Result.map_eq_ok.mp henter
    cases hs
    exact hfile haccept hclaim
  skip hQ hclaim := hskip hQ hclaim
  adopt hQ hclaim hsub := hadopt hQ hclaim hsub

/-! ## The caps -/

structure WithinCaps (depth : Nat) (s : ValidationState) (tree : ConfigTree)
    (s' : ValidationState) : Prop where
  maxDepth : s'.maxDepth = s.maxDepth
  maxChildren : s'.maxChildren = s.maxChildren
  depth_le : s.maxDepth ≠ 0 → ∀ place ∈ tree.places, depth + place.route.length ≤ s.maxDepth
  children_le : s.maxChildren ≠ 0 → ∀ place ∈ tree.places,
    place.cfg.children.size ≤ s.maxChildren

lemma withinCaps_tracks (hdirs : ∀ {abs cfg} {name : String} {child}, Path.isAbsolute abs = true →
      loadLocalConfig disk abs = .ok cfg → cfg.children[name]? = some child →
      validationDir disk abs child = dirs abs child) :
    Tracks (validator u disk) disk dirs fun _ depth s _ tree s' => WithinCaps depth s tree s' := by
  refine validator_tracks hdirs (Q := fun _ => WithinCaps) ?_ ?_ ?_
  · intro abs prefix_ depth s cfg s' hdepth hclaim
    obtain ⟨hchildren, hclaim⟩ := claimFile_eq_ok hclaim
    have hs := (claimWorkspaces_eq_ok hclaim).1
    refine ⟨by rw [hs], by rw [hs], fun hne => ?_, fun hne => ?_⟩
    · unfold checkDepth at hdepth
      split at hdepth
      · cases hdepth
      · rename_i hcap
        simp only [ConfigTree.places, List.mem_singleton, forall_eq, List.length_nil, Nat.add_zero]
        by_contra hlt
        exact hcap ⟨hne, Nat.lt_of_not_le hlt⟩
    · simpa [ConfigTree.places] using hchildren hne
  · intro prefix_ depth s tree s₁ abs name dir child s₂ hQ hclaim
    obtain ⟨_, _, _, _, rfl⟩ := claimChild_eq_ok hclaim
    exact ⟨hQ.maxDepth, hQ.maxChildren, hQ.depth_le, hQ.children_le⟩
  · intro prefix_ depth s tree s₁ abs name dir child s₂ sub s₃ hQ hclaim hsub
    obtain ⟨_, _, _, _, rfl⟩ := claimChild_eq_ok hclaim
    have hdepth : s₁.maxDepth = s.maxDepth := hQ.maxDepth
    have hchildren : s₁.maxChildren = s.maxChildren := hQ.maxChildren
    refine ⟨hsub.maxDepth.trans hdepth, hsub.maxChildren.trans hchildren, fun hne => ?_,
      fun hne => ?_⟩
    · intro place hplace
      rcases List.mem_append.mp hplace with hplace | hplace
      · exact hQ.depth_le hne place hplace
      · obtain ⟨below, hbelow, rfl⟩ := List.mem_map.mp hplace
        have hle := hsub.depth_le (by simpa [hdepth] using hne) below hbelow
        simp only [hdepth] at hle
        simp only [List.length_cons]
        omega
    · intro place hplace
      rcases List.mem_append.mp hplace with hplace | hplace
      · exact hQ.children_le hne place hplace
      · obtain ⟨below, hbelow, rfl⟩ := List.mem_map.mp hplace
        have hle := hsub.children_le (by simpa [hchildren] using hne) below hbelow
        simpa [hchildren] using hle

/-! ## Session names -/

lemma orchestratorSessionName_eq (prefix_ : String) :
    orchestratorSessionName prefix_ = qualifyName prefix_ "orchestrator" := by
  unfold orchestratorSessionName qualifyName
  split
  · rfl
  · rw [String.append_assoc]
    rfl

lemma prefix_of_qualifyName_eq {prefix_ name : String}
    (h : qualifyName prefix_ name = "orchestrator") : prefix_ = "" := by
  by_contra hne
  rw [qualifyName, if_neg hne] at h
  have hdot : '.' ∈ "orchestrator".toList := by
    rw [← h]
    simp [toString]
  exact absurd hdot (by decide)

lemma orchestratorSessionName_injective : Function.Injective orchestratorSessionName := by
  intro a b h
  rw [orchestratorSessionName_eq, orchestratorSessionName_eq] at h
  by_cases ha : a = ""
  · subst ha
    exact (prefix_of_qualifyName_eq h.symm).symm
  · by_cases hb : b = ""
    · subst hb
      exact prefix_of_qualifyName_eq h
    · rw [qualifyName, if_neg ha, qualifyName, if_neg hb] at h
      apply String.toList_inj.mp
      simpa [toString] using congrArg String.toList h

structure ValidationState.Apart (enabled : Bool) (s : ValidationState) : Prop where
  claimed : ∀ prefix_ ∈ s.childPrefixes, orchestratorSessionName prefix_ ∈ s.orchestrators
  apart : ∀ prefix_ ∈ s.childPrefixes, orchestratorSessionName prefix_ ∉ s.workspaces
  root : enabled = true → "orchestrator" ∉ s.workspaces

structure NamesClaimed (prefix_ : String) (s : ValidationState) (tree : ConfigTree)
    (s' : ValidationState) : Prop where
  workspaces : ∀ k ∈ s.workspaces, k ∈ s'.workspaces
  childPrefixes : ∀ k ∈ s.childPrefixes, k ∈ s'.childPrefixes
  names : ∀ place ∈ tree.places, ∀ name ∈ place.cfg.workspaces,
    qualifyName (place.prefix_ prefix_) name ∈ s'.workspaces
  prefixes : ∀ place ∈ tree.places, place.route ≠ [] →
    place.prefix_ prefix_ ∈ s'.childPrefixes

namespace ValidationState.Apart

variable {enabled : Bool} {u : Unicode} {abs prefix_ : String} {s s' : ValidationState}

lemma file {cfg : Config} (h : s.Apart enabled)
    (hroot : enabled = true → prefix_ = "" → "orchestrator" ∈ s.orchestrators)
    (hclaim : claimWorkspaces u abs prefix_ cfg.workspaces.toList s = .ok s') :
    s'.Apart enabled ∧ NamesClaimed prefix_ s (.file abs cfg) s' := by
  obtain ⟨hs, hkeys, hfree⟩ := claimWorkspaces_eq_ok hclaim
  have hprefixes : s'.childPrefixes = s.childPrefixes := by rw [hs]
  have horchestrators : s'.orchestrators = s.orchestrators := by rw [hs]
  refine ⟨⟨?_, ?_, ?_⟩, ⟨?_, ?_, ?_, ?_⟩⟩
  · rw [hprefixes, horchestrators]
    exact h.claimed
  · intro q hq hmem
    rw [hprefixes] at hq
    rcases (hkeys _).mp hmem with hmem | ⟨entry, hentry, heq⟩
    · exact h.apart q hq hmem
    · exact hfree entry hentry (heq ▸ h.claimed q hq)
  · intro henabled hmem
    rcases (hkeys _).mp hmem with hmem | ⟨entry, hentry, heq⟩
    · exact h.root henabled hmem
    · exact hfree entry hentry (heq ▸ hroot henabled (prefix_of_qualifyName_eq heq))
  · exact fun k hk => (hkeys k).mpr (.inl hk)
  · rw [hprefixes]
    exact fun k hk => hk
  · simp only [ConfigTree.places, List.mem_singleton, forall_eq]
    intro name hname
    obtain ⟨ws, hws⟩ := BTreeMap.exists_of_mem hname
    exact (hkeys _).mpr
      (.inr ⟨(name, ws), Std.ExtTreeMap.mem_toList_iff_getElem?_eq_some.mpr hws, rfl⟩)
  · simp [ConfigTree.places]

lemma claimChild {name dir : String} (h : s.Apart enabled)
    (hclaim : Config.claimChild s abs name dir prefix_ = .ok s') : s'.Apart enabled := by
  obtain ⟨_, hsession, claim, claim', rfl⟩ := claimChild_eq_ok hclaim
  refine ⟨?_, ?_, h.root⟩
  · intro q hq
    simp only [Std.ExtTreeMap.mem_insert, Std.LawfulEqOrd.compare_eq_iff_eq] at hq ⊢
    rcases hq with rfl | hq
    · exact .inl rfl
    · exact .inr (h.claimed q hq)
  · intro q hq
    simp only [Std.ExtTreeMap.mem_insert, Std.LawfulEqOrd.compare_eq_iff_eq] at hq
    rcases hq with rfl | hq
    · exact hsession
    · exact h.apart q hq

lemma unclaimChild {name dir : String} (h : s.Apart enabled)
    (hclaim : Config.claimChild s abs name dir prefix_ = .ok s') :
    (Config.unclaimChild s' prefix_).Apart enabled ∧
      ∀ k, k ∈ (Config.unclaimChild s' prefix_).childPrefixes ↔ k ∈ s.childPrefixes := by
  obtain ⟨hfree, _, claim, claim', rfl⟩ := claimChild_eq_ok hclaim
  have hkeys : ∀ k, k ∈ (s.childPrefixes.insert prefix_ claim).erase prefix_ ↔
      k ∈ s.childPrefixes := by
    intro k
    simp only [Std.ExtTreeMap.mem_erase, Std.ExtTreeMap.mem_insert, ne_eq,
      Std.LawfulEqOrd.compare_eq_iff_eq]
    constructor
    · rintro ⟨hne, rfl | hk⟩
      · exact absurd rfl hne
      · exact hk
    · intro hk
      refine ⟨?_, .inr hk⟩
      rintro rfl
      exact hfree hk
  refine ⟨⟨?_, ?_, h.root⟩, hkeys⟩
  · intro q hq
    have hq : q ∈ s.childPrefixes := (hkeys q).mp hq
    simp only [Config.unclaimChild, Std.ExtTreeMap.mem_erase, Std.ExtTreeMap.mem_insert, ne_eq,
      Std.LawfulEqOrd.compare_eq_iff_eq]
    refine ⟨?_, .inr (h.claimed q hq)⟩
    intro heq
    exact hfree (orchestratorSessionName_injective heq ▸ hq)
  · intro q hq
    exact h.apart q ((hkeys q).mp hq)

end ValidationState.Apart

lemma namesClaimed_tracks
    (hdirs : ∀ {abs cfg} {name : String} {child}, Path.isAbsolute abs = true →
      loadLocalConfig disk abs = .ok cfg → cfg.children[name]? = some child →
      validationDir disk abs child = dirs abs child) (enabled : Bool) :
    Tracks (validator u disk) disk dirs fun prefix_ _ s _ tree s' => s.Apart enabled →
      (enabled = true → prefix_ = "" → "orchestrator" ∈ s.orchestrators) →
      s'.Apart enabled ∧ NamesClaimed prefix_ s tree s' := by
  refine validator_tracks hdirs (Q := fun prefix_ _ s tree s' => s.Apart enabled →
      (enabled = true → prefix_ = "" → "orchestrator" ∈ s.orchestrators) →
      s'.Apart enabled ∧ NamesClaimed prefix_ s tree s') ?_ ?_ ?_
  · intro abs prefix_ depth s cfg s' _ hclaim happart hroot
    exact happart.file hroot (claimFile_eq_ok hclaim).2
  · intro prefix_ depth s tree s₁ abs name dir child s₂ hQ hclaim happart hroot
    obtain ⟨happart₁, hnames⟩ := hQ happart hroot
    obtain ⟨happart₂, hkeys⟩ := happart₁.unclaimChild hclaim
    obtain ⟨_, _, _, _, rfl⟩ := claimChild_eq_ok hclaim
    exact ⟨happart₂, hnames.workspaces, fun k hk => (hkeys k).mpr (hnames.childPrefixes k hk),
      hnames.names, fun place hplace hroute => (hkeys _).mpr (hnames.prefixes place hplace hroute)⟩
  · intro prefix_ depth s tree s₁ abs name dir child s₂ sub s₃ hQ hclaim hsub happart hroot
    obtain ⟨happart₁, hnames⟩ := hQ happart hroot
    have happart₂ := happart₁.claimChild hclaim
    obtain ⟨_, _, claim, claim', rfl⟩ := claimChild_eq_ok hclaim
    obtain ⟨happart₃, hbelow⟩ := hsub happart₂ fun _ hempty => by
      rw [hempty]
      exact Std.ExtTreeMap.mem_insert_self
    have hprefixes : ∀ k ∈ s₁.childPrefixes, k ∈ s₃.childPrefixes := fun k hk =>
      hbelow.childPrefixes k (Std.ExtTreeMap.mem_insert.mpr (.inr hk))
    refine ⟨happart₃, fun k hk => hbelow.workspaces k (hnames.workspaces k hk),
      fun k hk => hprefixes k (hnames.childPrefixes k hk), ?_, ?_⟩
    · intro place hplace
      rcases List.mem_append.mp hplace with hplace | hplace
      · exact fun name hname => hbelow.workspaces _ (hnames.names place hplace name hname)
      · obtain ⟨below, hmem, rfl⟩ := List.mem_map.mp hplace
        exact hbelow.names below hmem
    · intro place hplace hroute
      rcases List.mem_append.mp hplace with hplace | hplace
      · exact hprefixes _ (hnames.prefixes place hplace hroute)
      · obtain ⟨below, hmem, rfl⟩ := List.mem_map.mp hplace
        by_cases hnil : below.route = []
        · have hself := hbelow.childPrefixes (qualifyName prefix_ child.prefix_)
            Std.ExtTreeMap.mem_insert_self
          simpa [Place.prefix_, hnil] using hself
        · exact hbelow.prefixes below hmem hnil

/-! ## What a passed validation means -/

section Passed

variable {u : Unicode} {disk : Disk} {fuel : Nat} {path : String} {trail : Trail}

/-- What holds when the validation gets through. -/
theorem validateTree_eq_ok (h : validateTree u disk fuel path = some (.ok (), trail)) :
    ∃ abs root s, absolutize disk path = .ok abs ∧ loadLocalConfig disk abs = .ok root ∧
      (validator u disk).walk disk fuel path "" 0 (.start, initialClaims abs root) =
        some (.ok (), (trail, s)) := by
  unfold validateTree at h
  split at h
  · cases h
  · rename_i abs habs
    split at h
    · cases h
    · rename_i root hroot
      obtain ⟨⟨result, trail', s⟩, hwalk, houtcome⟩ := Option.map_eq_some_iff.mp h
      cases houtcome
      rw [loadValidatedConfig_eq, Result.mapError_eq_ok] at hroot
      refine ⟨abs, root, s, habs, hroot, ?_⟩
      rw [Walker.walk_congr (habs.trans (absolutize_absolutize habs).symm)]
      exact hwalk

lemma loads_of_explore {tree : ConfigTree} {trail' : Trail}
    (h : explore disk ownDir fuel path "" 0 (trail, ()) = some (.ok tree, (trail', ()))) :
    loadRecursive disk fuel path trail = some (.ok tree.merged, (trail', ())) ∧
      loadTreeRecursive disk fuel path "" trail = some (.ok (tree.node ""), (trail', ())) := by
  constructor
  · rw [loadRecursive, Fold.walk_eq_outcome, h]
    rfl
  · rw [loadTreeRecursive, Fold.walk_eq_outcome, h]
    rfl

lemma apart_initialClaims (abs : String) (root : Config) :
    (initialClaims abs root).Apart (!root.disableRootOrchestrator) ∧
      ((!root.disableRootOrchestrator) = true →
        "orchestrator" ∈ (initialClaims abs root).orchestrators) := by
  refine ⟨⟨?_, ?_, ?_⟩, ?_⟩
  · simp [initialClaims]
  · simp [initialClaims]
  · simp [initialClaims]
  · intro henabled
    have hfalse : root.disableRootOrchestrator = false := by simpa using henabled
    simp [initialClaims, hfalse, orchestratorSessionName]

lemma names_of_validateTree {dirs : String → Child → String}
    (hdirs : ∀ {abs cfg} {name : String} {child}, Path.isAbsolute abs = true →
      loadLocalConfig disk abs = .ok cfg → cfg.children[name]? = some child →
      validationDir disk abs child = dirs abs child)
    (h : validateTree u disk fuel path = some (.ok (), trail)) :
    ∃ tree, explore disk dirs fuel path "" 0 (.start, ()) = some (.ok tree, (trail, ())) ∧
      ∀ place ∈ tree.places, ∀ name ∈ place.cfg.workspaces, ∀ other ∈ tree.places,
        (other.route = [] → other.cfg.disableRootOrchestrator = false) →
        qualifyName (place.prefix_ "") name ≠ orchestratorSessionName (other.prefix_ "") := by
  obtain ⟨abs, root, s, habs, hroot, hwalk⟩ := validateTree_eq_ok h
  obtain ⟨tree, hexplore, hQ⟩ := (namesClaimed_tracks hdirs _).walk hwalk
  obtain ⟨hinit, henabled⟩ := apart_initialClaims abs root
  obtain ⟨hapart, hclaimed⟩ := hQ hinit fun h _ => henabled h
  refine ⟨tree, hexplore, ?_⟩
  intro place hplace name hname other hother hcounts heq
  have hmem := hclaimed.names place hplace name hname
  rw [heq] at hmem
  by_cases hroute : other.route = []
  · have hcfg : other.cfg = root := by
      have hother := ConfigTree.root_of_route_nil hother hroute
      obtain ⟨hpath, hload⟩ := root_explore hexplore
      rw [habs] at hpath
      rw [← Except.ok.inj hpath, hroot] at hload
      rw [Except.ok.inj hload, ← hother]
    rw [hcfg] at hcounts
    have hpre : other.prefix_ "" = "" := by simp [Place.prefix_, hroute]
    rw [hpre] at hmem
    exact hapart.root (by simp [hcounts hroute]) hmem
  · exact hapart.apart _ (hclaimed.prefixes other hother hroute) hmem

/-- The validation suffices for loading: with an absolute home directory, if it gets
through then so do both loaders, along the same files; and no loaded project is deeper, and
no loaded file has more children, than the root allows. -/
theorem loads_of_validateTree (hhome : ∀ dir, disk.home = some dir → Path.isAbsolute dir = true)
    (h : validateTree u disk fuel path = some (.ok (), trail)) :
    ∃ abs root cfg node trail₁ trail₂,
      absolutize disk path = .ok abs ∧ loadLocalConfig disk abs = .ok root ∧
      loadRecursive disk fuel path .start = some (.ok cfg, (trail₁, ())) ∧
      loadTreeRecursive disk fuel path "" .start = some (.ok node, (trail₂, ())) ∧
      trail₁.visited = trail.visited ∧ trail₂.visited = trail.visited ∧
      (root.maxOrchestratorDepth ≠ 0 →
        ∀ entry ∈ node.nodes 0, entry.1 ≤ root.maxOrchestratorDepth) ∧
      (root.maxChildrenPerNode ≠ 0 → ∀ file ∈ trail.visited, ∃ loaded,
        loadLocalConfig disk file = .ok loaded ∧
          loaded.children.size ≤ root.maxChildrenPerNode) := by
  obtain ⟨abs, root, s, habs, hroot, hwalk⟩ := validateTree_eq_ok h
  obtain ⟨tree, hexplore, hcaps⟩ := (withinCaps_tracks (validationDir_eq hhome)).walk hwalk
  obtain ⟨hload, hloadTree⟩ := loads_of_explore hexplore
  refine ⟨abs, root, _, _, trail, trail, habs, hroot, hload, hloadTree, rfl, rfl, ?_, ?_⟩
  · intro hne entry hentry
    rw [nodes_node] at hentry
    obtain ⟨place, hplace, rfl⟩ := List.mem_map.mp hentry
    exact hcaps.depth_le (Fin.val_ne_zero_iff.mpr hne) place hplace
  · intro hne file hfile
    rw [visited_explore hexplore] at hfile
    obtain ⟨place, hplace, rfl⟩ := List.mem_map.mp hfile
    exact ⟨place.cfg, load_places hexplore place hplace,
      hcaps.children_le (Fin.val_ne_zero_iff.mpr hne) place hplace⟩

/-- A project `p` with a workspace and a child `a`, which has a workspace of the same
name. -/
def sampleProject : FileSystem :=
  .ofEntries (some "/home/ax") [FileSystem.project "p"
    { default with
      children := (∅ : BTreeMap String Child).insert "a" ⟨"a", ""⟩
      workspaces :=
        (∅ : BTreeMap String Workspace).insert "w" { Workspace.default with dir := "." } }
    [FileSystem.project "a"
      { default with
        workspaces := (∅ : BTreeMap String Workspace).insert "w"
          { Workspace.default with dir := "." } } []]]

lemma isAbsolute_home_sampleProject (dir : String) (h : sampleProject.disk.home = some dir) :
    Path.isAbsolute dir = true := by
  cases h
  rfl

def sampleTrail : Trail where
  seen := ∅
  visited := ["/p/.ax/config.yaml", "/p/a/.ax/config.yaml"]

lemma validateTree_sampleProject :
    validateTree .ascii sampleProject.disk 2 "/p/.ax/config.yaml" =
      some (.ok (), sampleTrail) := by
  decide +kernel

/-- The sample project is loaded as far as it was validated. -/
theorem loads_sampleProject :
    ∃ abs root cfg node trail₁ trail₂,
      absolutize sampleProject.disk "/p/.ax/config.yaml" = .ok abs ∧
      loadLocalConfig sampleProject.disk abs = .ok root ∧
      loadRecursive sampleProject.disk 2 "/p/.ax/config.yaml" .start =
        some (.ok cfg, (trail₁, ())) ∧
      loadTreeRecursive sampleProject.disk 2 "/p/.ax/config.yaml" "" .start =
        some (.ok node, (trail₂, ())) ∧
      trail₁.visited = sampleTrail.visited ∧ trail₂.visited = sampleTrail.visited ∧
      (root.maxOrchestratorDepth ≠ 0 →
        ∀ entry ∈ node.nodes 0, entry.1 ≤ root.maxOrchestratorDepth) ∧
      (root.maxChildrenPerNode ≠ 0 → ∀ file ∈ sampleTrail.visited, ∃ loaded,
        loadLocalConfig sampleProject.disk file = .ok loaded ∧
          loaded.children.size ≤ root.maxChildrenPerNode) :=
  loads_of_validateTree isAbsolute_home_sampleProject validateTree_sampleProject

/-- Reserved names: if the validation gets through, no workspace of the tree it went
through has the session name of an orchestrator of that tree, the root orchestrator counted
only where it is not disabled; and with an absolute home directory the same holds of the
loaded tree. -/
theorem reserved_names (h : validateTree u disk fuel path = some (.ok (), trail)) :
    (∃ tree, explore disk (validationDir disk) fuel path "" 0 (.start, ()) =
        some (.ok tree, (trail, ())) ∧
      ∀ place ∈ tree.places, ∀ name ∈ place.cfg.workspaces, ∀ other ∈ tree.places,
        (other.route = [] → other.cfg.disableRootOrchestrator = false) →
        qualifyName (place.prefix_ "") name ≠ orchestratorSessionName (other.prefix_ "")) ∧
    ((∀ dir, disk.home = some dir → Path.isAbsolute dir = true) →
      ∃ node, loadTree u disk fuel path = some (.ok node) ∧
        ∀ ref ∈ node.refs, ∀ other ∈ node.nodes 0,
          (other.1 = 0 → other.2.disableRootOrchestrator = false) →
          ref.mergedName ≠ orchestratorSessionName other.2.prefix_) := by
  refine ⟨names_of_validateTree (fun _ _ _ => rfl) h, fun hhome => ?_⟩
  obtain ⟨tree, hexplore, hnames⟩ := names_of_validateTree (validationDir_eq hhome) h
  refine ⟨tree.node "", ?_, ?_⟩
  · rw [loadTree, h]
    dsimp only
    rw [(loads_of_explore hexplore).2]
    rfl
  · intro ref href other hother hcounts
    rw [refs_node] at href
    obtain ⟨place, hplace, href⟩ := List.mem_flatMap.mp href
    obtain ⟨⟨name, ws⟩, hentry, rfl⟩ := List.mem_map.mp href
    rw [nodes_node] at hother
    obtain ⟨otherPlace, hotherPlace, rfl⟩ := List.mem_map.mp hother
    have hname : name ∈ place.cfg.workspaces := by
      rw [Std.ExtTreeMap.mem_iff_isSome_getElem?,
        Std.ExtTreeMap.mem_toList_iff_getElem?_eq_some.mp hentry]
      rfl
    refine hnames place hplace name hname otherPlace hotherPlace fun hroute => ?_
    have hdisable := hcounts (by simp [hroute])
    simpa [treeLoader, Place.prefix_, hroute] using hdisable

/-- The workspaces of the sample project are not named as its orchestrators. -/
theorem reserved_names_sampleProject :
    ∃ node, loadTree .ascii sampleProject.disk 2 "/p/.ax/config.yaml" = some (.ok node) ∧
      ∀ ref ∈ node.refs, ∀ other ∈ node.nodes 0,
        (other.1 = 0 → other.2.disableRootOrchestrator = false) →
        ref.mergedName ≠ orchestratorSessionName other.2.prefix_ :=
  (reserved_names validateTree_sampleProject).2 isAbsolute_home_sampleProject

end Passed

end Ax.Config
