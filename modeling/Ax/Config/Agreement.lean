import Mathlib.Algebra.Order.BigOperators.Group.List
import Mathlib.Algebra.Order.Group.Nat
import Ax.Config.Validate

/-!
# The two views of a tree agree

`Config::load` builds the names of workspaces from below, `Config::load_tree` from above,
and the first skips a workspace whose name is taken.  The views agree exactly if the two
ways give the same names and no name is taken: nothing in the validation rules out a dot
in a name or an empty prefix.

Main results:

- Theorem `views_agree_iff`: when the two views agree.
-/

namespace Ax.Config

/-! ## Names from above and from below -/

lemma length_qualifyName {a : String} (h : a ≠ "") (b : String) :
    (qualifyName a b).length = a.length + 1 + b.length := by
  have hdot : ".".length = 1 := rfl
  rw [qualifyName, if_neg h]
  simp [toString, hdot]

lemma qualifyName_ne_empty {a : String} (h : a ≠ "") (b : String) : qualifyName a b ≠ "" := by
  intro heq
  have hlength := length_qualifyName h b
  rw [heq, String.length_empty] at hlength
  omega

lemma qualifyName_assoc {a b : String} (h : b = "" → a = "") (c : String) :
    qualifyName (qualifyName a b) c = qualifyName a (qualifyName b c) := by
  by_cases ha : a = ""
  · simp [qualifyName, ha]
  · have hb : b ≠ "" := fun hb => ha (h hb)
    have hab := qualifyName_ne_empty ha b
    rw [qualifyName, if_neg hab, qualifyName, if_neg ha, qualifyName, if_neg ha, qualifyName,
      if_neg hb]
    simp [toString, String.append_assoc]

lemma foldl_qualifyName_eq {route : List String} {start : String} (h : "" ∉ route)
    (name : String) :
    qualifyName (route.foldl qualifyName start) name =
      qualifyName start (route.foldr qualifyName name) := by
  induction route generalizing start with
  | nil => rfl
  | cons prefix_ rest ih =>
    rw [List.mem_cons, not_or] at h
    rw [List.foldl_cons, List.foldr_cons, ih h.2,
      qualifyName_assoc fun hempty => absurd hempty.symm h.1]

lemma length_foldl_qualifyName {route : List String} {start : String} (h : start ≠ "")
    (name : String) :
    (qualifyName (route.foldl qualifyName start) name).length =
      (qualifyName start (route.foldr qualifyName name)).length + route.count "" := by
  induction route generalizing start with
  | nil => rfl
  | cons prefix_ rest ih =>
    have hne := qualifyName_ne_empty h prefix_
    rw [List.foldl_cons, List.foldr_cons, ih hne, List.count_cons, length_qualifyName hne,
      length_qualifyName h, length_qualifyName h]
    by_cases hpre : prefix_ = ""
    · subst hpre
      simp [qualifyName]
      omega
    · rw [length_qualifyName hpre]
      simp [hpre]
      omega

lemma foldl_qualifyName_dropWhile (route : List String) :
    (route.dropWhile (· = "")).foldl qualifyName "" = route.foldl qualifyName "" := by
  induction route with
  | nil => rfl
  | cons prefix_ rest ih =>
    by_cases h : prefix_ = ""
    · subst h
      simpa [qualifyName] using ih
    · simp [h]

lemma foldr_qualifyName_dropWhile (route : List String) (name : String) :
    (route.dropWhile (· = "")).foldr qualifyName name = route.foldr qualifyName name := by
  induction route with
  | nil => rfl
  | cons prefix_ rest ih =>
    by_cases h : prefix_ = ""
    · subst h
      simpa [qualifyName] using ih
    · simp [h]

namespace Place

/-- The name of a workspace of a place, as `Config::load_tree` builds it from above. -/
def mergedName (place : Place) (name : String) : String :=
  qualifyName (place.prefix_ "") name

/-- The name of a workspace of a place, as `Config::load` builds it from below. -/
def spelledName (place : Place) (name : String) : String :=
  place.route.foldr qualifyName name

/-- The empty prefixes behind nonempty ones. -/
def gaps (place : Place) : Nat :=
  (place.route.dropWhile (· = "")).count ""

lemma length_mergedName (place : Place) (name : String) :
    (place.mergedName name).length = (place.spelledName name).length + place.gaps := by
  unfold mergedName spelledName gaps Place.prefix_
  rw [← foldl_qualifyName_dropWhile, ← foldr_qualifyName_dropWhile]
  cases hroute : place.route.dropWhile (· = "") with
  | nil => rfl
  | cons prefix_ rest =>
    have hne : prefix_ ≠ "" := by
      have hhead := List.head_dropWhile_not (fun x => decide (x = ""))
        (hroute ▸ List.cons_ne_nil prefix_ rest)
      simpa [hroute] using hhead
    rw [List.foldl_cons, List.foldr_cons, List.count_cons_of_ne hne, ← length_foldl_qualifyName hne]
    simp [qualifyName]

lemma mergedName_eq {place : Place} (h : place.gaps = 0) (name : String) :
    place.mergedName name = place.spelledName name := by
  unfold mergedName spelledName Place.prefix_
  rw [← foldl_qualifyName_dropWhile, ← foldr_qualifyName_dropWhile,
    foldl_qualifyName_eq (List.count_eq_zero.mp h)]
  simp [qualifyName]

end Place

/-! ## Workspaces place by place -/

structure Occurrence where
  place : Place
  name : String
  ws : Workspace

namespace Occurrence

def mergedName (o : Occurrence) : String :=
  o.place.mergedName o.name

def spelledName (o : Occurrence) : String :=
  o.place.spelledName o.name

end Occurrence

namespace ConfigTree

def occurrences (tree : ConfigTree) : List Occurrence :=
  tree.places.flatMap fun place =>
    place.cfg.workspaces.toList.map fun entry => ⟨place, entry.1, entry.2⟩

lemma definitions_eq (tree : ConfigTree) :
    tree.definitions = tree.occurrences.map fun o => (o.spelledName, o.ws) := by
  simp only [definitions, occurrences, List.map_flatMap, List.map_map]
  rfl

lemma mergedName_refs (tree : ConfigTree) :
    (tree.node "").refs.map WorkspaceRef.mergedName =
      tree.occurrences.map Occurrence.mergedName := by
  rw [refs_node]
  simp only [occurrences, List.map_flatMap, List.map_map]
  rfl

lemma mem_workspaces_merged (tree : ConfigTree) (k : String) :
    k ∈ tree.merged.workspaces ↔ k ∈ tree.occurrences.map Occurrence.spelledName := by
  rw [Std.ExtTreeMap.mem_iff_isSome_getElem?, workspaces_merged, definitions_eq, Option.isSome_map,
    List.find?_isSome]
  simp

lemma get?_workspaces_merged {tree : ConfigTree}
    (hnodup : (tree.occurrences.map Occurrence.spelledName).Nodup) {o : Occurrence}
    (ho : o ∈ tree.occurrences) : tree.merged.workspaces[o.spelledName]? = some o.ws := by
  rw [workspaces_merged, definitions_eq, List.find?_map, Option.map_map]
  have hfind : tree.occurrences.find? (fun p => p.spelledName = o.spelledName) = some o := by
    obtain ⟨p, hp⟩ := Option.isSome_iff_exists.mp (List.find?_isSome.mpr ⟨o, ho, by simp⟩ :
        (tree.occurrences.find? fun p => p.spelledName = o.spelledName).isSome = true)
    have hname : p.spelledName = o.spelledName := by simpa using List.find?_some hp
    rw [hp, List.inj_on_of_nodup_map hnodup (List.mem_of_find?_eq_some hp) ho hname]
  simpa [Function.comp_def] using congrArg (Option.map Occurrence.ws) hfind

end ConfigTree

/-! ## Agreement -/

structure ViewsAgree (tree : ConfigTree) (cfg : Config) (node : ProjectNode) : Prop where
  names : ∀ k, k ∈ cfg.workspaces ↔ ∃ ref ∈ node.refs, ref.mergedName = k
  unique : (node.refs.map WorkspaceRef.mergedName).Nodup
  definition : ∀ o ∈ tree.occurrences, cfg.workspaces[o.mergedName]? = some o.ws

lemma names_alike {α : Type} {l : List α} {f g : α → String} {d : α → Nat}
    (hlength : ∀ a, (f a).length = (g a).length + d a) (hnodup : (l.map f).Nodup)
    (hsame : ∀ k, k ∈ l.map f ↔ k ∈ l.map g) : (l.map g).Nodup ∧ ∀ a ∈ l, d a = 0 := by
  have hperm : (l.map f).Perm (l.map g) :=
    (hnodup.subperm fun k hk => (hsame k).mp hk).perm_of_length_le (by simp)
  refine ⟨hperm.nodup_iff.mp hnodup, ?_⟩
  have hsum : ((l.map f).map String.length).sum = ((l.map g).map String.length).sum :=
    (hperm.map String.length).sum_eq
  have hsplit : ((l.map f).map String.length).sum =
      ((l.map g).map String.length).sum + (l.map d).sum := by
    simp only [List.map_map, Function.comp_def, hlength, List.sum_map_add]
  have hzero : (l.map d).sum = 0 := by omega
  intro a ha
  exact List.sum_eq_zero_iff.mp hzero (d a) (List.mem_map_of_mem ha)

lemma viewsAgree_iff (tree : ConfigTree) :
    ViewsAgree tree tree.merged (tree.node "") ↔
      (∀ o ∈ tree.occurrences, o.place.gaps = 0) ∧
        (tree.occurrences.map Occurrence.spelledName).Nodup := by
  constructor
  · intro h
    have hunique := h.unique
    rw [tree.mergedName_refs] at hunique
    have hsame : ∀ k, k ∈ tree.occurrences.map Occurrence.mergedName ↔
        k ∈ tree.occurrences.map Occurrence.spelledName := by
      intro k
      rw [← tree.mem_workspaces_merged, h.names, ← tree.mergedName_refs, List.mem_map]
    obtain ⟨hnodup, hgaps⟩ := names_alike
      (fun o : Occurrence => o.place.length_mergedName o.name) hunique hsame
    exact ⟨hgaps, hnodup⟩
  · rintro ⟨hgaps, hnodup⟩
    have halike : tree.occurrences.map Occurrence.mergedName =
        tree.occurrences.map Occurrence.spelledName :=
      List.map_congr_left fun o ho => Place.mergedName_eq (hgaps o ho) o.name
    refine ⟨fun k => ?_, ?_, fun o ho => ?_⟩
    · rw [tree.mem_workspaces_merged, ← halike, ← tree.mergedName_refs, List.mem_map]
    · rw [tree.mergedName_refs, halike]
      exact hnodup
    · have hname : o.mergedName = o.spelledName := Place.mergedName_eq (hgaps o ho) o.name
      rw [hname]
      exact ConfigTree.get?_workspaces_merged hnodup ho

section Loaded

variable {u : Unicode} {disk : Disk} {fuel : Nat} {path : String}

lemma load_eq_ok {cfg : Config} (h : load u disk fuel path = some (.ok cfg)) :
    ∃ tree trail trail', validateTree u disk fuel path = some (.ok (), trail) ∧
      explore disk ownDir fuel path "" 0 (.start, ()) = some (.ok tree, (trail', ())) ∧
      cfg = tree.merged := by
  unfold load at h
  split at h
  · cases h
  · cases h
  · rename_i trail hvalid
    obtain ⟨⟨result, s⟩, hload, hresult⟩ := Option.map_eq_some_iff.mp h
    rw [loadRecursive, Fold.walk_eq_outcome] at hload
    obtain ⟨⟨explored, trail', _⟩, hexplore, houtcome⟩ := Option.map_eq_some_iff.mp hload
    cases explored with
    | error e =>
      cases houtcome
      cases hresult
    | ok tree =>
      cases houtcome
      cases hresult
      exact ⟨tree, trail, trail', hvalid, hexplore, rfl⟩

lemma loads_of_load {cfg : Config} (h : load u disk fuel path = some (.ok cfg)) :
    ∃ tree trail,
      explore disk ownDir fuel path "" 0 (.start, ()) = some (.ok tree, (trail, ())) ∧
      loadTree u disk fuel path = some (.ok (tree.node "")) ∧ cfg = tree.merged := by
  obtain ⟨tree, trail, trail', hvalid, hexplore, rfl⟩ := load_eq_ok h
  refine ⟨tree, trail', hexplore, ?_, rfl⟩
  rw [loadTree, hvalid]
  dsimp only
  rw [(loads_of_explore hexplore).2]
  rfl

/-- The two views of a configuration that loads agree if no place with a workspace has an
empty prefix behind a nonempty one on its route, and no two workspaces are spelled alike;
and only then. -/
theorem views_agree_iff {cfg : Config} (h : load u disk fuel path = some (.ok cfg)) :
    ∃ tree trail node,
      explore disk ownDir fuel path "" 0 (.start, ()) = some (.ok tree, (trail, ())) ∧
      loadTree u disk fuel path = some (.ok node) ∧
      (ViewsAgree tree cfg node ↔
        (∀ o ∈ tree.occurrences, "" ∉ o.place.route.dropWhile (· = "")) ∧
          (tree.occurrences.map fun o => o.place.route.foldr qualifyName o.name).Nodup) := by
  obtain ⟨tree, trail, hexplore, htree, rfl⟩ := loads_of_load h
  have hiff := viewsAgree_iff tree
  simp only [Place.gaps, List.count_eq_zero] at hiff
  exact ⟨tree, trail, tree.node "", hexplore, htree, hiff⟩

/-- The two views of the sample project agree as far as the names are apart. -/
theorem views_agree_iff_sampleProject :
    ∃ cfg, load .ascii sampleProject.disk 2 "/p/.ax/config.yaml" = some (.ok cfg) ∧
      ∃ tree trail node,
        explore sampleProject.disk ownDir 2 "/p/.ax/config.yaml" "" 0 (.start, ()) =
          some (.ok tree, (trail, ())) ∧
        loadTree .ascii sampleProject.disk 2 "/p/.ax/config.yaml" = some (.ok node) ∧
        (ViewsAgree tree cfg node ↔
          (∀ o ∈ tree.occurrences, "" ∉ o.place.route.dropWhile (· = "")) ∧
            (tree.occurrences.map fun o => o.place.route.foldr qualifyName o.name).Nodup) := by
  have hload : ((load .ascii sampleProject.disk 2 "/p/.ax/config.yaml").bind fun result =>
      result.toOption.map fun _ => ()) = some () := by
    decide +kernel
  obtain ⟨cfg, hcfg, _⟩ := Result.exists_ok_of_bind hload
  exact ⟨cfg, hcfg, views_agree_iff hcfg⟩

/-- A project `p` with a workspace `a.b` and a child `a` with a workspace `b`. -/
def dottedNames : FileSystem :=
  .ofEntries (some "/home/ax") [FileSystem.project "p"
    { default with
      children := (∅ : BTreeMap String Child).insert "a" ⟨"a", ""⟩
      workspaces := (∅ : BTreeMap String Workspace).insert "a.b"
        { Workspace.default with dir := "." } }
    [FileSystem.project "a"
      { default with
        workspaces := (∅ : BTreeMap String Workspace).insert "b"
          { Workspace.default with dir := "." } } []]]

/-- The project with a dotted name is accepted, the tree view has one name for two places,
and the workspace of the child is missing in the merged view. -/
theorem views_differ_dottedNames :
    ∃ cfg node, load .ascii dottedNames.disk 2 "/p/.ax/config.yaml" = some (.ok cfg) ∧
      loadTree .ascii dottedNames.disk 2 "/p/.ax/config.yaml" = some (.ok node) ∧
      (cfg.workspaces.toList.map fun entry => (entry.1, entry.2.dir)) = [("a.b", "/p/.")] ∧
      node.refs.map WorkspaceRef.mergedName = ["a.b", "a.b"] := by
  have hload : ((load .ascii dottedNames.disk 2 "/p/.ax/config.yaml").bind fun result =>
      result.toOption.map fun cfg => cfg.workspaces.toList.map fun entry =>
        (entry.1, entry.2.dir)) = some [("a.b", "/p/.")] := by
    decide +kernel
  have hloadTree : ((loadTree .ascii dottedNames.disk 2 "/p/.ax/config.yaml").bind fun result =>
      result.toOption.map fun node => node.refs.map WorkspaceRef.mergedName) =
        some ["a.b", "a.b"] := by
    decide +kernel
  obtain ⟨cfg, hcfg, hnames⟩ := Result.exists_ok_of_bind hload
  obtain ⟨node, hnode, hrefs⟩ := Result.exists_ok_of_bind hloadTree
  exact ⟨cfg, node, hcfg, hnode, hnames, hrefs⟩

end Loaded

end Ax.Config
