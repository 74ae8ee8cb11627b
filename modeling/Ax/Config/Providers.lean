import Ax.Config.Agreement

/-!
# Agent providers of merged configurations

A workspace names its provider, and its file may give a default; the definitions of
providers are merged over the whole tree, where the first one of a name counts, and the
default of the root counts for every workspace without a provider.

Main results:

- Theorem `providers_preserved_iff`: when a workspace has the same provider in the merged
  root and in its own project.
-/

namespace Ax.Config

/-- `non_empty`. -/
def nonEmpty (value : String) : Option String :=
  if Text.trim value = "" then none else some (Text.trim value)

structure ResolvedAgentProvider where
  id : String
  provider : AgentProvider
deriving DecidableEq, Repr

/-- `codex_agent_provider_for_workspace`. -/
def codexAgentProviderForWorkspace (cfg : Config) (workspace : String) :
    Option ResolvedAgentProvider := do
  let name ← (cfg.workspaces[workspace]?.bind fun ws => nonEmpty ws.agentProvider).or
    (nonEmpty cfg.defaultAgentProvider)
  let provider ← cfg.agentProviders[name]?
  some ⟨name, provider⟩

namespace ConfigTree

/-- The first definition of a provider, in the order in which the tree is loaded. -/
def firstProvider (tree : ConfigTree) (id : String) : Option AgentProvider :=
  (tree.providers.find? fun entry => entry.1 = id).map Prod.snd

/-- The provider of the first workspace under a merged name, or the default of the root. -/
def providerName (tree : ConfigTree) (key : String) : Option String :=
  (((tree.definitions.find? fun entry => entry.1 = key).map Prod.snd).bind fun ws =>
    nonEmpty ws.agentProvider).or (nonEmpty tree.root.2.defaultAgentProvider)

end ConfigTree

/-- Two lookups of providers agree: both have one name with one definition, or neither finds a
definition. -/
def SameProvider (name name' : Option String) (find find' : String → Option AgentProvider) :
    Prop :=
  (∃ id, name = some id ∧ name' = some id ∧ find id = find' id) ∨
    (∀ id, name = some id → find id = none) ∧ ∀ id, name' = some id → find' id = none

variable {tree : ConfigTree} {ws : Workspace}

lemma bind_provider_eq_iff {name name' : Option String}
    {find find' : String → Option AgentProvider} :
    (name.bind fun id => (find id).map (ResolvedAgentProvider.mk id)) =
        (name'.bind fun id => (find' id).map (ResolvedAgentProvider.mk id)) ↔
      SameProvider name name' find find' := by
  unfold SameProvider
  cases name with
  | none => cases name' <;> simp
  | some id =>
    cases name' with
    | none => simp
    | some id' =>
      simp only [Option.bind_some, Option.some.injEq, exists_eq_left', forall_eq']
      by_cases hid : id = id'
      · subst hid
        generalize find id = found, find' id = other
        cases found <;> cases other <;> simp
      · generalize find id = found, find' id' = other
        cases found <;> cases other <;> simp [hid, Ne.symm hid]

lemma codexProvider_merged (tree : ConfigTree) (key : String) :
    codexAgentProviderForWorkspace tree.merged key =
      (tree.providerName key).bind fun id =>
        (tree.firstProvider id).map (ResolvedAgentProvider.mk id) := by
  have hdefault : tree.merged.defaultAgentProvider = tree.root.2.defaultAgentProvider := by
    rw [tree.merged_eq]
  have hprovider : ∀ id, (tree.merged.agentProviders[id]?.bind fun provider =>
      some (ResolvedAgentProvider.mk id provider)) =
        (tree.firstProvider id).map (ResolvedAgentProvider.mk id) := by
    intro id
    rw [tree.agentProviders_merged]
    exact Option.map_eq_bind.symm
  simp only [codexAgentProviderForWorkspace, tree.workspaces_merged, hdefault,
    Option.bind_eq_bind, hprovider]
  rfl

lemma workspaces_merged_root {name : String} (h : tree.root.2.workspaces[name]? = some ws) :
    tree.merged.workspaces[name]? = some ws := by
  induction tree with
  | file path cfg => exact h
  | adopt tree alias_ child sub ihtree _ =>
    have hmerged : (ConfigTree.adopt tree alias_ child sub).merged.workspaces[name]? =
        tree.merged.workspaces[name]?.or _ := BTreeMap.get?_foldl_insertIfNew _ _ _
    rw [hmerged, ihtree h]
    rfl

section Loaded

variable {u : Unicode} {disk : Disk} {fuel : Nat} {path : String}

/-- Merging children preserves the provider of a workspace of a descendant if and only if the
first workspace under its merged name, with the default of the root, leads to the same provider
in the whole tree as the workspace itself does below its own file. -/
theorem providers_preserved_iff {cfg : Config} (h : load u disk fuel path = some (.ok cfg)) :
    ∃ tree trail,
      explore disk ownDir fuel path "" 0 (.start, ()) = some (.ok tree, (trail, ())) ∧
      ∀ route sub, (route, sub) ∈ tree.descendants →
        ∀ fuel' own, load u disk fuel' sub.root.1 = some (.ok own) →
        ∀ name ws, sub.root.2.workspaces[name]? = some ws →
          (codexAgentProviderForWorkspace cfg (route.foldr qualifyName name) =
              codexAgentProviderForWorkspace own name ↔
            SameProvider (tree.providerName (route.foldr qualifyName name))
              (nonEmpty ws.agentProvider) tree.firstProvider sub.firstProvider) := by
  obtain ⟨tree, _, trail, _, hexplore, rfl⟩ := load_eq_ok h
  refine ⟨tree, trail, hexplore, ?_⟩
  intro route sub hsub fuel' own hown name ws hname
  obtain ⟨sub', _, trail', _, hexplore', rfl⟩ := load_eq_ok hown
  obtain ⟨_, path', _, _, _, _, hexploreSub⟩ := explore_descendant hexplore hsub
  obtain ⟨hpath, hload⟩ := root_explore hexploreSub
  obtain rfl : sub = sub' :=
    explore_unique (hpath.trans (absolutize_absolutize hpath).symm) hexploreSub hexplore'
  -- a workspace without a provider is in a file without a default
  have hprovider : sub.providerName name = nonEmpty ws.agentProvider := by
    rw [ConfigTree.providerName, ← sub.workspaces_merged, workspaces_merged_root hname,
      Option.bind_some]
    by_cases hblank : Text.trim ws.agentProvider = ""
    · rw [nonEmpty, nonEmpty, if_pos (trim_defaultAgentProvider hload hname hblank)]
      exact Option.or_none
    · rw [nonEmpty, if_neg hblank]
      rfl
  rw [codexProvider_merged, codexProvider_merged, hprovider]
  exact bind_provider_eq_iff

/-- The workspaces of the sample project keep their providers. -/
theorem providers_preserved_sampleProject :
    ∃ cfg tree trail, load .ascii sampleProject.disk 2 "/p/.ax/config.yaml" = some (.ok cfg) ∧
      explore sampleProject.disk ownDir 2 "/p/.ax/config.yaml" "" 0 (.start, ()) =
        some (.ok tree, (trail, ())) ∧
      ∀ route sub, (route, sub) ∈ tree.descendants →
        ∀ fuel' own, load .ascii sampleProject.disk fuel' sub.root.1 = some (.ok own) →
        ∀ name ws, sub.root.2.workspaces[name]? = some ws →
          (codexAgentProviderForWorkspace cfg (route.foldr qualifyName name) =
              codexAgentProviderForWorkspace own name ↔
            SameProvider (tree.providerName (route.foldr qualifyName name))
              (nonEmpty ws.agentProvider) tree.firstProvider sub.firstProvider) := by
  have hload : ((load .ascii sampleProject.disk 2 "/p/.ax/config.yaml").bind fun result =>
      result.toOption.map fun _ => ()) = some () := by
    decide +kernel
  obtain ⟨cfg, hcfg, _⟩ := Result.exists_ok_of_bind hload
  obtain ⟨tree, trail, hexplore, hiff⟩ := providers_preserved_iff hcfg
  exact ⟨cfg, tree, trail, hcfg, hexplore, hiff⟩

/-- A project `p` and its child `a`, which define the provider `main` differently; a
workspace of the child uses it. -/
def sharedProvider : FileSystem :=
  .ofEntries (some "/home/ax") [FileSystem.project "p"
    { default with
      agentProviders := (∅ : BTreeMap String AgentProvider).insert "main"
        ⟨"codex", "large", "", "", "", ""⟩
      children := (∅ : BTreeMap String Child).insert "a" ⟨"a", ""⟩ }
    [FileSystem.project "a"
      { default with
        agentProviders := (∅ : BTreeMap String AgentProvider).insert "main"
          ⟨"codex", "small", "", "", "", ""⟩
        workspaces := (∅ : BTreeMap String Workspace).insert "b"
          { Workspace.default with dir := ".", runtime := "codex", agentProvider := "main" } } []]]

/-- From the merged root the workspace of the child has the provider of the root. -/
theorem providers_differ_sharedProvider :
    ∃ cfg own, load .ascii sharedProvider.disk 2 "/p/.ax/config.yaml" = some (.ok cfg) ∧
      load .ascii sharedProvider.disk 2 "/p/a/.ax/config.yaml" = some (.ok own) ∧
      codexAgentProviderForWorkspace cfg "a.b" =
        some ⟨"main", ⟨"codex", "large", "", "", "", ""⟩⟩ ∧
      codexAgentProviderForWorkspace own "b" =
        some ⟨"main", ⟨"codex", "small", "", "", "", ""⟩⟩ := by
  have hload : ((load .ascii sharedProvider.disk 2 "/p/.ax/config.yaml").bind fun result =>
      result.toOption.map fun cfg => codexAgentProviderForWorkspace cfg "a.b") =
        some (some ⟨"main", ⟨"codex", "large", "", "", "", ""⟩⟩) := by
    decide +kernel
  have hown : ((load .ascii sharedProvider.disk 2 "/p/a/.ax/config.yaml").bind fun result =>
      result.toOption.map fun cfg => codexAgentProviderForWorkspace cfg "b") =
        some (some ⟨"main", ⟨"codex", "small", "", "", "", ""⟩⟩) := by
    decide +kernel
  obtain ⟨cfg, hcfg, hroot⟩ := Result.exists_ok_of_bind hload
  obtain ⟨own, hown, hlocal⟩ := Result.exists_ok_of_bind hown
  exact ⟨cfg, own, hcfg, hown, hroot, hlocal⟩

end Loaded

end Ax.Config
