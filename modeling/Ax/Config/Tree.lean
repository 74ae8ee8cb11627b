import Ax.Config.Walk

/-!
# The tree of configuration files and its two views

The walk without checks gives the tree of files below a root.  The two loaders evaluate
it: `load_recursive` merges the workspaces and providers of the children into the root,
and `load_tree_recursive` keeps the hierarchy.

Main results:

- Theorem `workspaces_merged`: in the merged view the first definition of a name counts.
- Theorem `nodes_node`: the projects of the tree view are the places of the tree.
-/

namespace Ax.Config

/-! ## Trees -/

/-- A file of a tree with the prefixes of the children on the way to it. -/
structure Place where
  route : List String
  path : String
  cfg : Config

namespace ConfigTree

def root : ConfigTree → String × Config
  | .file path cfg => (path, cfg)
  | .adopt tree _ _ _ => tree.root

def places : ConfigTree → List Place
  | .file path cfg => [⟨[], path, cfg⟩]
  | .adopt tree _ child sub =>
    tree.places ++ sub.places.map fun place =>
      { place with route := child.prefix_ :: place.route }

def descendants : ConfigTree → List (List String × ConfigTree)
  | .file _ _ => []
  | .adopt tree _ child sub =>
    tree.descendants ++ ([child.prefix_], sub) ::
      sub.descendants.map fun entry => (child.prefix_ :: entry.1, entry.2)

lemma root_of_route_nil {tree : ConfigTree} {place : Place} (h : place ∈ tree.places)
    (hroute : place.route = []) : (place.path, place.cfg) = tree.root := by
  induction tree with
  | file path cfg =>
    obtain rfl := List.mem_singleton.mp h
    rfl
  | adopt tree name child sub ihtree _ =>
    rcases List.mem_append.mp h with h | h
    · exact ihtree h
    · obtain ⟨below, _, rfl⟩ := List.mem_map.mp h
      cases hroute

lemma map_path_places_adopt (tree : ConfigTree) (name : String) (child : Child)
    (sub : ConfigTree) :
    (adopt tree name child sub).places.map Place.path =
      tree.places.map Place.path ++ sub.places.map Place.path := by
  simp [places, Function.comp_def]

end ConfigTree

/-! ## Exploring -/

section Explore

variable {disk : Disk} {dirs : String → Child → String}
  {depth fuel : Nat} {path prefix_ prefix' : String} {trail trail' : Trail}
  {tree tree' : ConfigTree} {s s' r r' : Trail × Unit}

lemma explore_induction {I : ConfigTree → Trail → Trail → Prop}
    (hfile : ∀ {path abs cfg trail}, absolutize disk path = .ok abs →
      loadLocalConfig disk abs = .ok cfg →
      I (.file abs cfg) trail ((trail.push abs).visit abs))
    (hskip : ∀ {tree trail trail' abs}, I tree trail trail' → I tree trail (trail'.push abs))
    (hadopt : ∀ {tree trail trail₁ name child fuel path prefix_ depth sub trail₂},
      I tree trail trail₁ →
      explore disk dirs fuel path prefix_ depth (trail₁, ()) = some (.ok sub, (trail₂, ())) →
      I sub trail₁ trail₂ → I (.adopt tree name child sub) trail trail₂)
    (hleave : ∀ {tree trail trail' abs}, I tree trail trail' → I tree trail (trail'.pop abs))
    (h : explore disk dirs fuel path prefix_ depth (trail, ()) = some (.ok tree, (trail', ()))) :
    I tree trail trail' := by
  induction fuel generalizing path prefix_ depth tree trail trail' with
  | zero => cases h
  | succ fuel ih =>
    obtain ⟨abs, cfg, tree₀, s₁, ⟨trail₂, _⟩, henter, hchildren, hs⟩ := Walker.walk_eq_ok h
    cases hs
    obtain ⟨hpath, _, _, hload, state, hstate, rfl⟩ := Walker.enterFile_eq_ok henter
    obtain rfl : tree₀ = .file abs cfg := by cases hstate; rfl
    refine hleave ?_
    have hI : I (.file abs cfg) trail ((trail.push abs).visit abs) :=
      hfile hpath (Result.mapError_eq_ok.mp hload)
    -- the invariant of the loop: what holds of the file with the children so far
    clear hpath hload hstate henter h
    revert hI hchildren
    generalize ConfigTree.file abs cfg = start
    generalize (trail.push abs).visit abs = trail₁
    induction cfg.children.toList generalizing start trail₁ with
    | nil =>
      intro hchildren hI
      cases hchildren
      exact hI
    | cons entry rest ihrest =>
      intro hchildren hI
      simp only [Walker.walkChildren, Fold.walker] at hchildren ihrest
      split at hchildren
      · exact ihrest _ _ hchildren hI
      · split at hchildren
        · cases hchildren
        · rename_i hrec
          exact ihrest _ _ hchildren (hadopt hI hrec (ih hrec))
        · rename_i hrec
          split at hchildren
          · rename_i he
            rcases Walker.enterFile_missing (Walker.walk_missing hrec he) he with
              ⟨_, _, _, hs⟩ | ⟨_, _, _, _, _, hs⟩
            · cases hs
              exact ihrest _ _ hchildren hI
            · cases hs
              exact ihrest _ _ hchildren (hskip hI)
          · cases hchildren

section

variable (h : explore disk dirs fuel path prefix_ depth (trail, ()) = some (.ok tree, (trail', ())))
include h

lemma visited_explore : trail'.visited = trail.visited ++ tree.places.map Place.path := by
  refine explore_induction (I := fun tree trail trail' =>
    trail'.visited = trail.visited ++ tree.places.map Place.path) ?_ ?_ ?_ ?_ h
  · intro path abs cfg trail _ _
    rfl
  · intro tree trail trail' abs hI
    exact hI
  · intro tree trail trail₁ name child fuel path prefix_ depth sub trail₂ hI _ hsub
    rw [hsub, hI, ConfigTree.map_path_places_adopt, List.append_assoc]
  · intro tree trail trail' abs hI
    exact hI

lemma explore_descendant {sub : ConfigTree} {route : List String}
    (hsub : (route, sub) ∈ tree.descendants) :
    ∃ fuel path prefix_ depth trail trail',
      explore disk dirs fuel path prefix_ depth (trail, ()) = some (.ok sub, (trail', ())) := by
  revert hsub
  refine explore_induction (I := fun tree _ _ => ∀ {route}, (route, sub) ∈ tree.descendants →
    ∃ fuel path prefix_ depth trail trail',
      explore disk dirs fuel path prefix_ depth (trail, ()) = some (.ok sub, (trail', ())))
    ?_ ?_ ?_ ?_ h
  · intro path abs cfg trail _ _ route hsub
    cases hsub
  · intro tree trail trail' abs hI
    exact hI
  · intro tree trail trail₁ name child fuel path prefix_ depth sub' trail₂ hI hexplore hsub'
      route hsub
    rcases List.mem_append.mp hsub with hsub | hsub
    · exact hI hsub
    · rcases List.mem_cons.mp hsub with heq | hsub
      · cases heq
        exact ⟨_, _, _, _, _, _, hexplore⟩
      · obtain ⟨entry, hentry, heq⟩ := List.mem_map.mp hsub
        cases heq
        exact hsub' hentry
  · intro tree trail trail' abs hI
    exact hI

lemma load_places : ∀ place ∈ tree.places, loadLocalConfig disk place.path = .ok place.cfg := by
  refine explore_induction (I := fun tree _ _ => ∀ place ∈ tree.places,
    loadLocalConfig disk place.path = .ok place.cfg) ?_ ?_ ?_ ?_ h
  · intro path abs cfg trail _ hload
    simpa [ConfigTree.places] using hload
  · intro tree trail trail' abs hI
    exact hI
  · intro tree trail trail₁ name child fuel path prefix_ depth sub trail₂ hI _ hsub place hplace
    rcases List.mem_append.mp hplace with hplace | hplace
    · exact hI place hplace
    · obtain ⟨below, hbelow, rfl⟩ := List.mem_map.mp hplace
      exact hsub below hbelow
  · intro tree trail trail' abs hI
    exact hI

end

lemma root_walkChildren
    {recurse : String → String → Trail × Unit → Option (Outcome Unit ConfigTree)} {abs : String}
    {children : List (String × Child)}
    (h : (explorer.walker disk dirs).walkChildren disk recurse abs prefix_ children tree s =
      some (.ok tree', s')) : tree'.root = tree.root := by
  induction children generalizing tree s with
  | nil =>
    cases h
    rfl
  | cons entry rest ih =>
    simp only [Walker.walkChildren, Fold.walker] at h ih
    repeat' split at h
    · exact ih h
    · cases h
    · rw [ih h]
      rfl
    · exact ih h
    · cases h

lemma root_explore (h : explore disk dirs fuel path prefix_ depth s = some (.ok tree, s')) :
    absolutize disk path = .ok tree.root.1 ∧
      loadLocalConfig disk tree.root.1 = .ok tree.root.2 := by
  cases fuel with
  | zero => cases h
  | succ fuel =>
    obtain ⟨abs, cfg, tree₀, s₁, s₂, henter, hchildren, hs⟩ := Walker.walk_eq_ok h
    obtain ⟨hpath, _, _, hload, state, hstate, rfl⟩ := Walker.enterFile_eq_ok henter
    obtain rfl : tree₀ = .file abs cfg := by cases hstate; rfl
    rw [root_walkChildren hchildren]
    exact ⟨hpath, Result.mapError_eq_ok.mp hload⟩

lemma not_missing_of_explore {fuel' : Nat} {depth' : Nat} {e : TreeError}
    (h : explore disk dirs fuel path prefix_ depth s = some (.ok tree, s'))
    (h' : explore disk dirs fuel' path prefix' depth' r = some (.error e, r')) :
    isMissingFile e = false := by
  by_contra he
  have he : isMissingFile e = true := by simpa using he
  obtain ⟨hpath, hload⟩ := root_explore h
  rcases Walker.enterFile_missing (Walker.walk_missing h' he) he with
    ⟨_, hpath', _⟩ | ⟨abs, hpath', _, _, hload', _⟩
  · rw [hpath] at hpath'
    cases hpath'
  · rw [hpath] at hpath'
    obtain rfl := Except.ok.inj hpath'
    simp [Fold.walker, hload, Except.mapError] at hload'

lemma walkChildren_unique
    {recurse recurse' : String → String → Trail × Unit → Option (Outcome Unit ConfigTree)}
    (hok : ∀ {path prefix_ prefix' s s' r r' sub sub'},
      recurse path prefix_ s = some (.ok sub, s') →
      recurse' path prefix' r = some (.ok sub', r') → sub = sub')
    (hleft : ∀ {path prefix_ prefix' s s' r r' sub e},
      recurse path prefix_ s = some (.ok sub, s') →
      recurse' path prefix' r = some (.error e, r') → isMissingFile e = false)
    (hright : ∀ {path prefix_ prefix' s s' r r' sub e},
      recurse' path prefix_ s = some (.ok sub, s') →
      recurse path prefix' r = some (.error e, r') → isMissingFile e = false) {abs : String}
    {children : List (String × Child)} {start : ConfigTree}
    (h : (explorer.walker disk dirs).walkChildren disk recurse abs prefix_ children start s =
      some (.ok tree, s'))
    (h' : (explorer.walker disk dirs).walkChildren disk recurse' abs prefix' children start r =
      some (.ok tree', r')) : tree = tree' := by
  induction children generalizing start s r with
  | nil =>
    cases h
    cases h'
    rfl
  | cons entry rest ih =>
    simp only [Walker.walkChildren, Fold.walker] at h h' ih
    cases hpath : configPathInDir disk (dirs abs entry.2) with
    | none =>
      rw [hpath] at h h'
      exact ih h h'
    | some path =>
      rw [hpath] at h h'
      dsimp only at h h'
      split at h
      · cases h
      · rename_i hrec
        split at h'
        · cases h'
        · rename_i hrec'
          obtain rfl := hok hrec hrec'
          exact ih h h'
        · rename_i hrec'
          rw [if_neg (by simp [hleft hrec hrec'])] at h'
          cases h'
      · rename_i hrec
        split at h
        · rename_i he
          split at h'
          · cases h'
          · rename_i hrec'
            rw [hright hrec' hrec] at he
            cases he
          · split at h'
            · exact ih h h'
            · cases h'
        · cases h

lemma explore_unique {fuel' : Nat} {path' : String} {depth' : Nat}
    (hpath : absolutize disk path = absolutize disk path')
    (h : explore disk dirs fuel path prefix_ depth s = some (.ok tree, s'))
    (h' : explore disk dirs fuel' path' prefix' depth' r = some (.ok tree', r')) :
    tree = tree' := by
  induction fuel generalizing fuel' path path' prefix_ prefix' depth depth' tree tree' s s' r r'
    with
  | zero => cases h
  | succ fuel ih =>
    cases fuel' with
    | zero => cases h'
    | succ fuel' =>
      obtain ⟨abs, cfg, tree₀, s₁, s₂, henter, hchildren, _⟩ := Walker.walk_eq_ok h
      obtain ⟨abs', cfg', tree₀', r₁, r₂, henter', hchildren', _⟩ := Walker.walk_eq_ok h'
      obtain ⟨habs, _, _, hload, state, hstate, rfl⟩ := Walker.enterFile_eq_ok henter
      obtain ⟨habs', _, _, hload', state', hstate', rfl⟩ := Walker.enterFile_eq_ok henter'
      rw [hpath, habs'] at habs
      obtain rfl := Except.ok.inj habs
      rw [hload'] at hload
      obtain rfl := Except.ok.inj hload
      obtain rfl : tree₀ = .file abs' cfg' := by cases hstate; rfl
      obtain rfl : tree₀' = .file abs' cfg' := by cases hstate'; rfl
      refine walkChildren_unique ?_ ?_ ?_ hchildren hchildren'
      · intro path prefix_ prefix' s s' r r' sub sub' hrec hrec'
        exact ih rfl hrec hrec'
      · intro path prefix_ prefix' s s' r r' sub e hrec hrec'
        exact not_missing_of_explore hrec hrec'
      · intro path prefix_ prefix' s s' r r' sub e hrec hrec'
        exact not_missing_of_explore hrec hrec'

end Explore

/-! ## The two loaders -/

/-- The references of the children as the loaders follow them. -/
def ownDir (_ : String) (child : Child) : String :=
  child.dir

/-- What `load_recursive` does with the files: providers and workspaces of a child are
added, the latter under the prefix of the child, unless their names are taken. -/
def loader : Fold Config where
  enter _ _ cfg := cfg
  adopt cfg _ child sub :=
    { cfg with
      agentProviders := sub.agentProviders.toList.foldl
        (fun m entry => m.insertIfNew entry.1 entry.2) cfg.agentProviders
      workspaces := (sub.workspaces.toList.map fun entry =>
        (qualifyName child.prefix_ entry.1, entry.2)).foldl
          (fun m entry => m.insertIfNew entry.1 entry.2) cfg.workspaces }

/-- `load_recursive`; neither the prefix nor the depth matters for it. -/
def loadRecursive (disk : Disk) (fuel : Nat) (path : String) (trail : Trail) :
    Option (Outcome Unit Config) :=
  (loader.walker disk ownDir).walk disk fuel path "" 0 (trail, ())

def workspaceRef (prefix_ name : String) (ws : Workspace) : WorkspaceRef where
  name := name
  mergedName := qualifyName prefix_ name
  runtime := ws.runtime
  description := ws.description
  instructions := ws.instructions

/-- What `load_tree_recursive` does with the files. -/
def treeLoader : Fold ProjectNode where
  enter path prefix_ cfg :=
    { name := cfg.project
      alias_ := ""
      prefix_ := prefix_
      dir := rootFromConfigPath path
      orchestratorRuntime := cfg.orchestratorRuntime
      disableRootOrchestrator := decide (prefix_ = "") && cfg.disableRootOrchestrator
      workspaces := cfg.workspaces.toList.map fun entry => workspaceRef prefix_ entry.1 entry.2
      children := [] }
  adopt node name _ sub := { node with children := node.children ++ [{ sub with alias_ := name }] }

/-- `load_tree_recursive`; the depth does not matter for it. -/
def loadTreeRecursive (disk : Disk) (fuel : Nat) (path prefix_ : String) (trail : Trail) :
    Option (Outcome Unit ProjectNode) :=
  (treeLoader.walker disk ownDir).walk disk fuel path prefix_ 0 (trail, ())

def ConfigTree.merged (tree : ConfigTree) : Config :=
  loader.eval "" tree

def ConfigTree.node (prefix_ : String) (tree : ConfigTree) : ProjectNode :=
  treeLoader.eval prefix_ tree

lemma eval_loader (prefix_ : String) (tree : ConfigTree) :
    loader.eval prefix_ tree = tree.merged := by
  unfold ConfigTree.merged
  have h : ∀ prefix_ prefix', loader.eval prefix_ tree = loader.eval prefix' tree := by
    induction tree with
    | file path cfg =>
      intro _ _
      rfl
    | adopt tree name child sub ihtree ihsub =>
      intro prefix_ prefix'
      simp only [Fold.eval]
      rw [ihtree prefix_ prefix', ihsub _ (qualifyName prefix' child.prefix_)]
  exact h _ _

/-! ## The merged view -/

lemma qualifyName_injective (prefix_ : String) : Function.Injective (qualifyName prefix_) := by
  intro a b h
  unfold qualifyName at h
  split at h
  · exact h
  · apply String.toList_inj.mp
    have h := congrArg String.toList h
    simpa [toString] using h

namespace ConfigTree

def definitions (tree : ConfigTree) : List (String × Workspace) :=
  tree.places.flatMap fun place =>
    place.cfg.workspaces.toList.map fun entry => (place.route.foldr qualifyName entry.1, entry.2)

variable (tree : ConfigTree)

lemma definitions_adopt (name : String) (child : Child) (sub : ConfigTree) :
    (adopt tree name child sub).definitions = tree.definitions ++
      sub.definitions.map fun entry => (qualifyName child.prefix_ entry.1, entry.2) := by
  simp [definitions, places, List.flatMap_map, List.map_flatMap, Function.comp_def]

lemma find?_qualified (prefix_ k : String) (a b : List (String × Workspace))
    (h : ∀ name, (a.find? fun entry => entry.1 = name).map Prod.snd =
      (b.find? fun entry => entry.1 = name).map Prod.snd) :
    (((a.map fun entry => (qualifyName prefix_ entry.1, entry.2)).find?
        fun entry => entry.1 = k).map Prod.snd) =
      ((b.map fun entry => (qualifyName prefix_ entry.1, entry.2)).find?
        fun entry => entry.1 = k).map Prod.snd := by
  by_cases hk : ∃ name, qualifyName prefix_ name = k
  · obtain ⟨name, rfl⟩ := hk
    simpa [List.find?_map, Function.comp_def, (qualifyName_injective prefix_).eq_iff] using h name
  · have hnone : ∀ l : List (String × Workspace),
        (l.map fun entry => (qualifyName prefix_ entry.1, entry.2)).find?
          (fun entry => entry.1 = k) = none := by
      intro l
      simp only [List.find?_eq_none, List.mem_map, decide_eq_true_eq]
      rintro _ ⟨entry, _, rfl⟩ heq
      exact hk ⟨entry.1, heq⟩
    rw [hnone, hnone]

/-- In the merged view the first definition of a name counts. -/
theorem workspaces_merged (k : String) :
    tree.merged.workspaces[k]? =
      (tree.definitions.find? fun entry => entry.1 = k).map Prod.snd := by
  induction tree generalizing k with
  | file path cfg =>
    have hdef : (file path cfg).definitions = cfg.workspaces.toList := by
      simp [definitions, places]
    rw [hdef, BTreeMap.find?_toList]
    rfl
  | adopt tree name child sub ihtree ihsub =>
    have hmerged : (adopt tree name child sub).merged.workspaces =
        (sub.merged.workspaces.toList.map fun entry =>
          (qualifyName child.prefix_ entry.1, entry.2)).foldl
            (fun m entry => m.insertIfNew entry.1 entry.2) tree.merged.workspaces := by
      rw [← eval_loader (qualifyName "" child.prefix_) sub]
      rfl
    rw [hmerged, BTreeMap.get?_foldl_insertIfNew, ihtree, definitions_adopt, List.find?_append,
      Option.map_or]
    congr 1
    refine find?_qualified _ _ _ _ fun name => ?_
    rw [BTreeMap.find?_toList, ihsub]

def providers (tree : ConfigTree) : List (String × AgentProvider) :=
  tree.places.flatMap fun place => place.cfg.agentProviders.toList

lemma agentProviders_merged (k : String) :
    tree.merged.agentProviders[k]? =
      (tree.providers.find? fun entry => entry.1 = k).map Prod.snd := by
  induction tree generalizing k with
  | file path cfg =>
    have hproviders : (file path cfg).providers = cfg.agentProviders.toList := by
      simp [providers, places]
    rw [hproviders, BTreeMap.find?_toList]
    rfl
  | adopt tree name child sub ihtree ihsub =>
    have hmerged : (adopt tree name child sub).merged.agentProviders =
        sub.merged.agentProviders.toList.foldl
          (fun m entry => m.insertIfNew entry.1 entry.2) tree.merged.agentProviders := by
      rw [← eval_loader (qualifyName "" child.prefix_) sub]
      rfl
    have hproviders :
        (adopt tree name child sub).providers = tree.providers ++ sub.providers := by
      simp [providers, places, List.flatMap_map]
    rw [hmerged, BTreeMap.get?_foldl_insertIfNew, ihtree, BTreeMap.find?_toList, ihsub,
      hproviders, List.find?_append, Option.map_or]

lemma merged_eq :
    tree.merged = { tree.root.2 with
      agentProviders := tree.merged.agentProviders, workspaces := tree.merged.workspaces } := by
  induction tree with
  | file path cfg => rfl
  | adopt tree name child sub ihtree _ =>
    have hadopt : (adopt tree name child sub).merged =
        loader.adopt tree.merged name child (loader.eval (qualifyName "" child.prefix_) sub) :=
      rfl
    rw [hadopt]
    simp only [loader, root]
    rw [ihtree]

end ConfigTree

/-! ## The tree view -/

def ProjectNode.own (node : ProjectNode) : ProjectNode :=
  { node with alias_ := "", children := [] }

mutual

def ProjectNode.nodes : ProjectNode → Nat → List (Nat × ProjectNode)
  | ⟨name, alias_, prefix_, dir, runtime, disable, workspaces, children⟩, depth =>
    (depth, ProjectNode.own ⟨name, alias_, prefix_, dir, runtime, disable, workspaces, children⟩)
      :: nodesOf children (depth + 1)

def nodesOf : List ProjectNode → Nat → List (Nat × ProjectNode)
  | [], _ => []
  | node :: rest, depth => node.nodes depth ++ nodesOf rest depth

end

lemma ProjectNode.nodes_eq (node : ProjectNode) (depth : Nat) :
    node.nodes depth = (depth, node.own) :: nodesOf node.children (depth + 1) := by
  cases node
  rw [ProjectNode.nodes]

def ProjectNode.refs (node : ProjectNode) : List WorkspaceRef :=
  (node.nodes 0).flatMap fun entry => entry.2.workspaces

lemma nodes_adopt (node : ProjectNode) (name : String) (child : Child) (sub : ProjectNode)
    (depth : Nat) :
    (treeLoader.adopt node name child sub).nodes depth =
      node.nodes depth ++ sub.nodes (depth + 1) := by
  have happend : ∀ nodes : List ProjectNode,
      nodesOf (nodes ++ [{ sub with alias_ := name }]) (depth + 1) =
        nodesOf nodes (depth + 1) ++ sub.nodes (depth + 1) := by
    intro nodes
    induction nodes with
    | nil => simp [nodesOf, ProjectNode.nodes_eq, ProjectNode.own]
    | cons first rest ih => simp [nodesOf, ih]
  simp [treeLoader, ProjectNode.nodes_eq node, ProjectNode.nodes_eq _ depth, happend,
    ProjectNode.own]

def Place.prefix_ (place : Place) (start : String) : String :=
  place.route.foldl qualifyName start

/-- The projects of the tree view are the places of the tree. -/
theorem nodes_node (prefix_ : String) (tree : ConfigTree) (depth : Nat) :
    (tree.node prefix_).nodes depth = tree.places.map fun place =>
      (depth + place.route.length,
        treeLoader.enter place.path (place.prefix_ prefix_) place.cfg) := by
  induction tree generalizing prefix_ depth with
  | file path cfg =>
    rw [ProjectNode.nodes_eq]
    rfl
  | adopt tree name child sub ihtree ihsub =>
    have hnode : (ConfigTree.adopt tree name child sub).node prefix_ =
        treeLoader.adopt (tree.node prefix_) name child
          (sub.node (qualifyName prefix_ child.prefix_)) := rfl
    rw [hnode, nodes_adopt, ihtree, ihsub]
    simp [ConfigTree.places, Place.prefix_, Function.comp_def, Nat.add_comm, Nat.add_left_comm]

lemma refs_node (prefix_ : String) (tree : ConfigTree) :
    (tree.node prefix_).refs = tree.places.flatMap fun place =>
      place.cfg.workspaces.toList.map fun entry =>
        workspaceRef (place.prefix_ prefix_) entry.1 entry.2 := by
  rw [ProjectNode.refs, nodes_node, List.flatMap_map]
  rfl

end Ax.Config
