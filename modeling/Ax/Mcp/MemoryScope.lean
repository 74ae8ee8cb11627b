import Mathlib.Data.List.Pairwise
import Ax.Config.Validate
import Ax.Daemon.Memory
import Ax.Workspace.Manager

/-!
# Memory scopes of agents

An agent names the scope of a memory by an alias.  The alias `project` stands for the project
that has the agent: it is looked up in the configuration tree, and its prefix becomes the scope.

Main results:

- Theorem `selectors_round_trip`: memories are recalled under the selector that they were
  remembered under.
- Theorem `projects_separate_iff`: when the projects of a tree have separate memories.
- Theorem `projects_shared_root`: a child that shares its memories with the root.
-/

namespace Ax.Mcp

open Workspaces (orchestratorName)
open Config (ProjectNode nodesOf)
open Daemon (MemoryStore normalizeScope valueAfter)

/-! ## Aliases -/

inductive ScopeError
  | invalid (raw : String)
  | configNotFound
  | loadTree (path source : String)
  | workspaceNotInTree (workspace path : String)
deriving DecidableEq, Repr

/-- `workspace_scope`. -/
def workspaceScope (workspace : String) : String :=
  "workspace:" ++ Text.trim workspace

/-- `project_scope`. -/
def projectScope (prefix_ : String) : String :=
  let trimmed := Text.trim prefix_
  if trimmed = "" then "project:root" else "project:" ++ trimmed

mutual

/-- `find_project_prefix`. -/
def findProjectPrefix (target : String) : ProjectNode → Option String
  | ⟨_, _, prefix_, _, _, _, workspaces, children⟩ =>
    if orchestratorName prefix_ = target then some prefix_
    else if workspaces.any fun ws => ws.mergedName = target then some prefix_
    else findChildPrefix target children

def findChildPrefix (target : String) : List ProjectNode → Option String
  | [] => none
  | child :: rest => (findProjectPrefix target child).or (findChildPrefix target rest)

end

/-- `resolve_project`, with the configuration file that is in effect, if there is one. -/
def resolveProject (loadTree : String → Except String ProjectNode) (workspace : String)
    (effectiveConfig : Option String) : Except ScopeError String := do
  let path ← effectiveConfig.elim (.error .configNotFound) .ok
  let tree ← (loadTree path).mapError (.loadTree path)
  let prefix_ ← (findProjectPrefix workspace tree).elim
    (.error (.workspaceNotInTree workspace path)) .ok
  return projectScope prefix_

/-- `resolve`.  The normaliser of the server is the daemon's. -/
def resolve (loadTree : String → Except String ProjectNode) (raw workspace : String)
    (effectiveConfig : Option String) : Except ScopeError String :=
  let trimmed := Text.trim raw
  let alias_ := Text.toAsciiLowercase trimmed
  if trimmed = "" ∨ alias_ = "workspace" then .ok (workspaceScope workspace)
  else if alias_ = "global" then .ok "global"
  else if alias_ = "project" then resolveProject loadTree workspace effectiveConfig
  else
    let scope := normalizeScope trimmed
    if scope = "global" ∨ ["project:", "workspace:", "task:"].any
        fun tag => tag.toList.isPrefixOf scope.toList then .ok scope
    else .error (.invalid raw)

def defaultScopes : List String :=
  ["global", "project", "workspace"]

/-- `resolve_many`. -/
def resolveMany (loadTree : String → Except String ProjectNode) (scopes : List String)
    (workspace : String) (effectiveConfig : Option String) : Except ScopeError (List String) :=
  (if scopes.isEmpty then defaultScopes else scopes).foldlM (fun out raw => do
    let resolved ← resolve loadTree raw workspace effectiveConfig
    return if resolved ∈ out then out else out ++ [resolved]) []

variable {loadTree : String → Except String ProjectNode} {effectiveConfig : Option String}

/-- The scopes are those that the selectors stand for, each one once. -/
theorem resolveMany_spec {workspace : String} {scopes out : List String}
    (h : resolveMany loadTree scopes workspace effectiveConfig = .ok out) :
    out.Nodup ∧ ∀ scope, scope ∈ out ↔ ∃ raw ∈ if scopes.isEmpty then defaultScopes else scopes,
      resolve loadTree raw workspace effectiveConfig = .ok scope := by
  unfold resolveMany at h
  generalize (if scopes.isEmpty then defaultScopes else scopes) = selectors at h ⊢
  suffices hloop : ∀ found : List String, found.Nodup → selectors.foldlM (fun out raw => do
        let resolved ← resolve loadTree raw workspace effectiveConfig
        return if resolved ∈ out then out else out ++ [resolved]) found = .ok out →
      out.Nodup ∧ ∀ scope, scope ∈ out ↔ scope ∈ found ∨ ∃ raw ∈ selectors,
        resolve loadTree raw workspace effectiveConfig = .ok scope by
    simpa using hloop [] List.nodup_nil h
  clear h
  induction selectors with
  | nil =>
    rintro found hnodup ⟨⟩
    simpa using hnodup
  | cons raw rest ih =>
    intro found hnodup h
    rw [List.foldlM_cons] at h
    cases hresolve : resolve loadTree raw workspace effectiveConfig with
    | error e =>
      rw [hresolve] at h
      cases h
    | ok resolved =>
      rw [hresolve] at h
      have hstep : (if resolved ∈ found then found else found ++ [resolved]).Nodup := by
        split
        · exact hnodup
        · rw [← List.concat_eq_append, List.nodup_concat]
          exact ⟨‹_›, hnodup⟩
      obtain ⟨hout, hmem⟩ := ih _ hstep h
      refine ⟨hout, fun scope => ?_⟩
      rw [hmem]
      grind

/-! ## The search -/

def agents (node : ProjectNode) : List String :=
  orchestratorName node.prefix_ :: node.workspaces.map fun ws => ws.mergedName

def firstWith (target : String) (nodes : List (Nat × ProjectNode)) : Option String :=
  (nodes.find? fun entry => target ∈ agents entry.2).map fun entry => entry.2.prefix_

lemma firstWith_append (target : String) (nodes rest : List (Nat × ProjectNode)) :
    firstWith target (nodes ++ rest) = (firstWith target nodes).or (firstWith target rest) := by
  rw [firstWith, firstWith, firstWith, List.find?_append, Option.map_or]

mutual

lemma findProjectPrefix_eq (target : String) (node : ProjectNode) (depth : Nat) :
    findProjectPrefix target node = firstWith target (node.nodes depth) := by
  cases node with
  | mk name alias_ prefix_ dir runtime disable workspaces children =>
    rw [findProjectPrefix, ProjectNode.nodes, findChildPrefix_eq target children (depth + 1),
      firstWith, firstWith, List.find?_cons]
    by_cases horchestrator : orchestratorName prefix_ = target
    · simp [horchestrator, agents, ProjectNode.own]
    · by_cases hworkspace : workspaces.any fun ws => ws.mergedName = target
      · have hmem : target ∈ workspaces.map fun ws => ws.mergedName := by
          simpa using hworkspace
        simp [horchestrator, hworkspace, hmem, agents, ProjectNode.own]
      · have hmem : target ∉ workspaces.map fun ws => ws.mergedName := by
          simpa using hworkspace
        simp [horchestrator, hworkspace, hmem, agents, ProjectNode.own, Ne.symm horchestrator]

lemma findChildPrefix_eq (target : String) (children : List ProjectNode) (depth : Nat) :
    findChildPrefix target children = firstWith target (nodesOf children depth) := by
  cases children with
  | nil =>
    rw [findChildPrefix, nodesOf]
    rfl
  | cons child rest =>
    rw [findChildPrefix, nodesOf, firstWith_append, findProjectPrefix_eq target child depth,
      findChildPrefix_eq target rest depth]

end

lemma resolve_project (tree : ProjectNode) (agent path : String) :
    resolve (fun _ => .ok tree) "project" agent (some path) =
      match firstWith agent (tree.nodes 0) with
      | none => .error (.workspaceNotInTree agent path)
      | some prefix_ => .ok (projectScope prefix_) := by
  have hresolve : resolve (fun _ => .ok tree) "project" agent (some path) =
      resolveProject (fun _ => .ok tree) agent (some path) := by
    rw [resolve]
    exact (if_neg (by decide)).trans ((if_neg (by decide)).trans (if_pos (by decide)))
  rw [hresolve, ← findProjectPrefix_eq agent tree 0]
  cases hfind : findProjectPrefix agent tree with
  | none => simp only [resolveProject, Option.elim, Except.mapError, bind, Except.bind, hfind]
  | some prefix_ =>
    simp only [resolveProject, Option.elim, Except.mapError, bind, Except.bind, hfind]
    rfl

/-! ## The scope that the daemon stores -/

def scopeTags : List String :=
  ["project:", "workspace:", "task:"]

/-- The server's `normalize_scope`, which goes through the tags in a loop. -/
def normalizeServerScope (raw : String) : String :=
  let trimmed := Text.trim raw
  if trimmed = "" then ""
  else if Text.toAsciiLowercase trimmed = "global" then "global"
  else match scopeTags.findSome? fun tag => (valueAfter tag trimmed).map (tag, ·) with
    | none => trimmed
    | some (tag, value) =>
      if tag = "project:" then "project:" ++ if value = "" then "root" else value
      else if value = "" then "" else tag ++ value

lemma normalizeServerScope_eq (raw : String) : normalizeServerScope raw = normalizeScope raw := by
  unfold normalizeServerScope normalizeScope
  dsimp only [scopeTags]
  split
  · rfl
  split
  · rfl
  rw [List.findSome?_cons, List.findSome?_cons, List.findSome?_cons, List.findSome?_nil]
  cases valueAfter "project:" (Text.trim raw) with
  | some value => rfl
  | none =>
    cases valueAfter "workspace:" (Text.trim raw) with
    | some value => rfl
    | none => cases valueAfter "task:" (Text.trim raw) <;> rfl

variable {tag text value scope : String}

lemma valueAfter_append (htag : tag ∈ scopeTags) (value : String) :
    valueAfter tag (tag ++ value) = some (Text.trim value) := by
  have hlower : tag.toList.map Char.toLower = tag.toList := by
    revert tag
    decide
  have hlead : tag.toList.isPrefixOf (Text.toAsciiLowercase (tag ++ value)).toList = true := by
    rw [Text.toAsciiLowercase, String.toList_ofList, String.toList_append, List.map_append, hlower]
    simp
  rw [valueAfter, if_pos hlead, String.toList_append, List.drop_left' String.length_toList,
    String.ofList_toList]

lemma head?_append (htag : tag ∈ scopeTags) (value : String) :
    (tag ++ value).toList.head? = tag.toList.head? := by
  have hne : tag.toList ≠ [] := by
    revert tag
    decide
  rw [String.toList_append, List.head?_append_of_ne_nil _ hne]

lemma valueAfter_eq_none (htag : tag ∈ scopeTags)
    (hhead : tag.toList.head? ≠ text.toList.head?.map Char.toLower) :
    valueAfter tag text = none := by
  refine if_neg fun hlead => hhead ?_
  obtain ⟨rest, hrest⟩ := List.isPrefixOf_iff_prefix.mp hlead
  have heq := head?_append htag (String.ofList rest)
  rw [String.toList_append, String.toList_ofList, hrest, Text.toAsciiLowercase,
    String.toList_ofList, List.head?_map] at heq
  exact heq.symm

lemma trim_of_valueAfter (h : valueAfter tag text = some value) : Text.trim value = value := by
  unfold valueAfter at h
  split at h
  · rw [← Option.some.inj h, Text.trim_trim]
  · cases h

def Tagged (scope : String) : Prop :=
  ∃ tag ∈ scopeTags, ∃ value, Text.trim value = value ∧ value ≠ "" ∧ scope = tag ++ value

lemma Tagged.normalizeScope_eq (h : Tagged scope) : normalizeScope scope = scope := by
  obtain ⟨tag, htag, value, htrim, hne, rfl⟩ := h
  have hhead := head?_append htag value
  have htagged : Text.trim (tag ++ value) = tag ++ value := by
    refine Text.trim_of_ends (fun c hc => ?_) (fun c hc => ?_)
    · have hstart : ∀ tag ∈ scopeTags, tag.toList.head?.all (!Text.isWhitespace ·) = true := by
        decide
      have hall := hstart tag htag
      rw [← hhead, hc] at hall
      simpa using hall
    · have hvalue : value.toList ≠ [] := fun hnil => hne (String.toList_inj.mp hnil)
      rw [String.toList_append, List.getLast?_append_of_ne_nil _ hvalue, ← htrim] at hc
      exact Text.isWhitespace_of_getLast?_trim hc
  have hglobal : Text.toAsciiLowercase (tag ++ value) ≠ "global" := by
    intro heq
    have hletters : ∀ tag ∈ scopeTags,
        tag.toList.head?.map Char.toLower ≠ "global".toList.head? := by
      decide
    have hfirst := congrArg (fun s : String => s.toList.head?) heq
    simp only [Text.toAsciiLowercase, String.toList_ofList, List.head?_map, hhead] at hfirst
    exact hletters tag htag hfirst
  have hnonempty : tag ++ value ≠ "" := by simp [hne]
  have hvalue := valueAfter_append htag value
  rw [htrim] at hvalue
  rw [normalizeScope, htagged, if_neg hnonempty, if_neg hglobal]
  simp only [scopeTags, List.mem_cons, List.not_mem_nil, or_false] at htag
  rcases htag with rfl | rfl | rfl
  · simp only [hvalue, if_neg hne]
  · have hproject : valueAfter "project:" ("workspace:" ++ value) = none :=
      valueAfter_eq_none (by decide) (by rw [hhead]; decide)
    simp only [hproject, hvalue, if_neg hne]
  · have hproject : valueAfter "project:" ("task:" ++ value) = none :=
      valueAfter_eq_none (by decide) (by rw [hhead]; decide)
    have hworkspace : valueAfter "workspace:" ("task:" ++ value) = none :=
      valueAfter_eq_none (by decide) (by rw [hhead]; decide)
    simp only [hproject, hworkspace, hvalue, if_neg hne]

lemma tagged_projectScope (prefix_ : String) : Tagged (projectScope prefix_) := by
  unfold projectScope
  dsimp only
  split
  · exact ⟨"project:", by decide, "root", by decide, by decide, by decide⟩
  · exact ⟨"project:", by decide, _, Text.trim_trim prefix_, ‹_›, rfl⟩

lemma normalizeScope_projectScope (prefix_ : String) :
    normalizeScope (projectScope prefix_) = projectScope prefix_ :=
  (tagged_projectScope prefix_).normalizeScope_eq

/-! ## Selectors -/

lemma normalizeScope_cases (raw : String) :
    normalizeScope raw = "" ∨ normalizeScope raw = "global" ∨ Tagged (normalizeScope raw) ∨
      ∀ tag ∈ scopeTags, valueAfter tag (normalizeScope raw) = none := by
  unfold normalizeScope
  dsimp only
  split
  · exact .inl rfl
  split
  · exact .inr (.inl rfl)
  split
  · next value hvalue =>
      refine .inr (.inr (.inl ⟨"project:", by decide, _, ?_, ?_, rfl⟩))
      · split
        · decide
        · exact trim_of_valueAfter hvalue
      · split
        · decide
        · assumption
  split
  · next value hvalue =>
      split
      · exact .inl rfl
      · exact .inr (.inr (.inl ⟨"workspace:", by decide, value, trim_of_valueAfter hvalue,
          ‹_›, rfl⟩))
  split
  · next value hvalue =>
      split
      · exact .inl rfl
      · exact .inr (.inr (.inl ⟨"task:", by decide, value, trim_of_valueAfter hvalue, ‹_›, rfl⟩))
  · refine .inr (.inr (.inr ?_))
    simp [scopeTags, *]

lemma tagged_of_isPrefixOf {raw : String} (htag : tag ∈ scopeTags)
    (hlead : tag.toList.isPrefixOf (normalizeScope raw).toList = true) :
    Tagged (normalizeScope raw) := by
  obtain ⟨rest, hrest⟩ := List.isPrefixOf_iff_prefix.mp hlead
  have hstarts : normalizeScope raw = tag ++ String.ofList rest :=
    String.toList_injective (by rw [String.toList_append, String.toList_ofList, hrest])
  have hhead := head?_append htag (String.ofList rest)
  rw [← hstarts] at hhead
  have hletters : ∀ tag ∈ scopeTags,
      "".toList.head? ≠ tag.toList.head? ∧ "global".toList.head? ≠ tag.toList.head? := by
    decide
  rcases normalizeScope_cases raw with hempty | hglobal | htagged | hnone
  · exact absurd (hempty ▸ hhead) (hletters tag htag).1
  · exact absurd (hglobal ▸ hhead) (hletters tag htag).2
  · exact htagged
  · have hvalue := valueAfter_append htag (String.ofList rest)
    rw [← hstarts, hnone tag htag] at hvalue
    cases hvalue

lemma exists_of_resolveProject {workspace : String}
    (h : resolveProject loadTree workspace effectiveConfig = .ok scope) :
    ∃ prefix_, scope = projectScope prefix_ := by
  unfold resolveProject at h
  obtain ⟨path, -, h⟩ := Result.bind_eq_ok.mp h
  obtain ⟨tree, -, h⟩ := Result.bind_eq_ok.mp h
  obtain ⟨prefix_, -, h⟩ := Result.bind_eq_ok.mp h
  exact ⟨prefix_, (Except.ok.inj h).symm⟩

lemma resolve_cases {raw workspace : String} (hworkspace : Text.trim workspace ≠ "")
    (h : resolve loadTree raw workspace effectiveConfig = .ok scope) :
    scope = "global" ∨ Tagged scope := by
  unfold resolve at h
  dsimp only at h
  split at h
  · rw [← Except.ok.inj h]
    exact .inr ⟨"workspace:", by decide, _, Text.trim_trim workspace, hworkspace, rfl⟩
  split at h
  · exact .inl (Except.ok.inj h).symm
  split at h
  · obtain ⟨prefix_, rfl⟩ := exists_of_resolveProject h
    exact .inr (tagged_projectScope prefix_)
  split at h
  · next hscope =>
      rw [← Except.ok.inj h]
      rcases hscope with hglobal | htag
      · exact .inl hglobal
      · obtain ⟨tag, htag, hlead⟩ := List.any_eq_true.mp htag
        exact .inr (tagged_of_isPrefixOf htag hlead)
  · cases h

lemma normalizeScope_of_cases (h : scope = "global" ∨ Tagged scope) :
    normalizeScope scope = scope ∧ scope ≠ "" := by
  rcases h with rfl | htagged
  · exact ⟨by decide, by decide⟩
  · refine ⟨htagged.normalizeScope_eq, ?_⟩
    obtain ⟨tag, -, value, -, hne, rfl⟩ := htagged
    simp [hne]

lemma scope_of_mem_list {s : MemoryStore} {query : MemoryStore.Query} {entry : Memory}
    (hscopes : query.scopes = [scope]) (hfixed : normalizeScope scope = scope) (hne : scope ≠ "")
    (h : entry ∈ s.list query) : entry.scope = scope := by
  have hdenotes : MemoryStore.Denotes normalizeScope query.scopes := fun _ =>
    ⟨scope, by simp [hscopes], hfixed.symm ▸ hne⟩
  obtain ⟨selector, hselector, hscope⟩ :=
    MemoryStore.scopeIsolated_list hdenotes s (by simp [hscopes]) entry h
  rw [hscopes, List.mem_singleton] at hselector
  rw [hscope, hselector, hfixed]

structure RoundTrips (scope : String) : Prop where
  nonempty : scope ≠ ""
  fixed : normalizeScope scope = scope
  agreed : normalizeServerScope scope = scope
  stored : ∀ (s s' : MemoryStore) r args entry, args.scope = scope →
    s.remember r args = (.ok entry, s') → entry.scope = scope ∧ s'.inner.get entry.id = some entry
  recalled : ∀ (s : MemoryStore) entry query, s.inner.get entry.id = some entry →
    entry.scope = scope → query.scopes = [scope] → query.kind = "" → query.tags = [] →
    query.includeSuperseded = true → (s.inner.values.length : Int) ≤ query.limit →
      entry ∈ s.list query

/-- What an agent remembers under a selector is recalled under it, and not under a selector for
another scope. -/
theorem selectors_round_trip {loadTree : String → Except String ProjectNode}
    {raw workspace : String} {effectiveConfig : Option String}
    (hworkspace : Text.trim workspace ≠ "")
    (h : resolve loadTree raw workspace effectiveConfig = .ok scope) :
    RoundTrips scope ∧
      ∀ raw' other, resolve loadTree raw' workspace effectiveConfig = .ok other → other ≠ scope →
        ∀ (s : MemoryStore) query, query.scopes = [other] →
          ∀ entry ∈ s.list query, entry.scope ≠ scope := by
  obtain ⟨hfixed, hne⟩ := normalizeScope_of_cases (resolve_cases hworkspace h)
  refine ⟨⟨hne, hfixed, ?_, ?_, ?_⟩, ?_⟩
  · rw [normalizeServerScope_eq, hfixed]
  · intro s s' r args entry hscope hremember
    obtain ⟨rfl, hget⟩ := MemoryStore.remember_ok hremember
    refine ⟨?_, hget⟩
    rw [MemoryStore.newEntry, hscope, hfixed]
  · intro s entry query hget hscope hscopes hkind htags hsuperseded hlimit
    refine MemoryStore.mem_list_of_selects hget (MemoryStore.selects_iff.mpr ?_) hlimit
    have hunfiltered : Text.trim query.kind = "" ∧ Daemon.normalizeTags query.tags = [] := by
      rw [hkind, htags]
      decide
    refine ⟨.inl hsuperseded, .inr ?_, .inl hunfiltered.1, .inl hunfiltered.2⟩
    refine Daemon.mem_normalizeAll_iff.mpr ⟨hscope ▸ hne, scope, by simp [hscopes], ?_⟩
    rw [hfixed, hscope]
  · intro raw' other hother hdiff s query hscopes entry hentry hscope
    obtain ⟨hfixed', hne'⟩ := normalizeScope_of_cases (resolve_cases hworkspace hother)
    exact hdiff ((scope_of_mem_list hscopes hfixed' hne' hentry).symm.trans hscope)

/-- The selector ` TASK: t1 ` of an agent `bob`. -/
theorem selectors_round_trip_task :
    resolve (fun _ => .error "no file") " TASK: t1 " "bob" none = .ok "task:t1" ∧
      RoundTrips "task:t1" := by
  have hresolve : resolve (fun _ => .error "no file") " TASK: t1 " "bob" none = .ok "task:t1" := by
    decide +kernel
  exact ⟨hresolve, (selectors_round_trip (by decide) hresolve).1⟩

/-! ## Separate memories -/

def Unshared (scope other : String) : Prop :=
  ∀ (s : MemoryStore) (query : MemoryStore.Query), query.scopes = [other] →
    ∀ entry ∈ s.list query, entry.scope ≠ normalizeScope scope

/-- The alias `project` stands for different scopes with the agents of different projects, and
the memories of one are not recalled by way of the other. -/
def SeparateMemories (path : String) (tree : ProjectNode) : Prop :=
  (tree.nodes 0).Pairwise fun p q => ∀ a ∈ agents p.2, ∀ b ∈ agents q.2, ∀ sa sb,
    resolve (fun _ => .ok tree) "project" a (some path) = .ok sa →
    resolve (fun _ => .ok tree) "project" b (some path) = .ok sb →
      normalizeScope sa ≠ normalizeScope sb ∧ Unshared sa sb ∧ Unshared sb sa

lemma unshared_of_ne {prefix_ other : String} (h : projectScope prefix_ ≠ projectScope other) :
    Unshared (projectScope prefix_) (projectScope other) := by
  intro s query hscopes entry hentry heq
  obtain ⟨hfixed, hne⟩ := normalizeScope_of_cases (.inr (tagged_projectScope other))
  rw [scope_of_mem_list hscopes hfixed hne hentry, normalizeScope_projectScope] at heq
  exact h heq.symm

/-- A prefix as it is named in a scope: without the white space around it, and `root` if it is
blank. -/
def scopeName (prefix_ : String) : String :=
  if Text.trim prefix_ = "" then "root" else Text.trim prefix_

lemma projectScope_ne_iff {prefix_ other : String} :
    projectScope prefix_ ≠ projectScope other ↔ scopeName prefix_ ≠ scopeName other := by
  have hscope (p : String) : projectScope p = "project:" ++ scopeName p := by
    unfold projectScope scopeName
    dsimp only
    split <;> rfl
  rw [hscope, hscope, ne_eq, String.append_right_inj]

/-- No agent belongs to both projects, and their prefixes are named differently. -/
def Distinct (p q : Nat × ProjectNode) : Prop :=
  (∀ a ∈ agents p.2, a ∉ agents q.2) ∧ scopeName p.2.prefix_ ≠ scopeName q.2.prefix_

lemma firstWith_eq {nodes : List (Nat × ProjectNode)}
    (h : nodes.Pairwise fun p q => ∀ a ∈ agents p.2, a ∉ agents q.2) {p : Nat × ProjectNode}
    (hp : p ∈ nodes) {a : String} (ha : a ∈ agents p.2) : firstWith a nodes = some p.2.prefix_ := by
  have hsymm : Std.Symm fun p q : Nat × ProjectNode => ∀ a ∈ agents p.2, a ∉ agents q.2 :=
    ⟨fun p q hpq a haq hap => hpq a hap haq⟩
  cases hfind : nodes.find? fun entry => a ∈ agents entry.2 with
  | none => exact absurd (by simpa using ha) (List.find?_eq_none.mp hfind p hp)
  | some found =>
    have hfound : a ∈ agents found.2 := by simpa using List.find?_some hfind
    rw [firstWith, hfind]
    by_contra hne
    have hdiff : found ≠ p := fun heq => hne (heq ▸ rfl)
    exact h.forall (List.mem_of_find?_eq_some hfind) hp hdiff a hfound ha

/-- The projects of a tree have separate memories exactly if no agent belongs to two of them and
their prefixes differ up to white space around them, a blank one counting as `root`. -/
theorem projects_separate_iff (path : String) (tree : ProjectNode) :
    SeparateMemories path tree ↔ (tree.nodes 0).Pairwise Distinct := by
  constructor
  · intro h
    have hagents : (tree.nodes 0).Pairwise fun p q => ∀ a ∈ agents p.2, a ∉ agents q.2 := by
      refine h.imp_of_mem fun {p q} hp _ hpq a hap haq => ?_
      cases hfirst : firstWith a (tree.nodes 0) with
      | none =>
        rw [firstWith, Option.map_eq_none_iff, List.find?_eq_none] at hfirst
        exact absurd (by simpa using hap) (hfirst p hp)
      | some prefix_ =>
        have hresolve := resolve_project tree a path
        rw [hfirst] at hresolve
        exact (hpq a hap a haq _ _ hresolve hresolve).1 rfl
    refine (hagents.and h).imp_of_mem fun {p q} hp hq hboth => ⟨hboth.1, ?_⟩
    have hown : ∀ node : Nat × ProjectNode, orchestratorName node.2.prefix_ ∈ agents node.2 :=
      fun node => List.mem_cons_self
    have hresolveP := resolve_project tree (orchestratorName p.2.prefix_) path
    have hresolveQ := resolve_project tree (orchestratorName q.2.prefix_) path
    rw [firstWith_eq hagents hp (hown p)] at hresolveP
    rw [firstWith_eq hagents hq (hown q)] at hresolveQ
    have hne := (hboth.2 _ (hown p) _ (hown q) _ _ hresolveP hresolveQ).1
    rwa [normalizeScope_projectScope, normalizeScope_projectScope, projectScope_ne_iff] at hne
  · intro h
    have hagents := h.imp fun {p q} hpq => hpq.1
    refine h.imp_of_mem fun {p q} hp hq hpq a ha b hb sa sb hsa hsb => ?_
    rw [resolve_project, firstWith_eq hagents hp ha] at hsa
    rw [resolve_project, firstWith_eq hagents hq hb] at hsb
    obtain rfl := Except.ok.inj hsa
    obtain rfl := Except.ok.inj hsb
    have hne := projectScope_ne_iff.mpr hpq.2
    rw [normalizeScope_projectScope, normalizeScope_projectScope]
    exact ⟨hne, unshared_of_ne hne, unshared_of_ne hne.symm⟩

/-- A project `p` with a child whose prefix is `root`. -/
def rootedProject : Config.FileSystem :=
  .ofEntries (some "/home/ax") [Config.FileSystem.project "p"
    { Config.default with
      children := (∅ : BTreeMap String Config.Child).insert "root" ⟨"c", ""⟩ }
    [Config.FileSystem.project "c" Config.default []]]

/-- This project is loaded, and the orchestrators of the root and of the child have the same
memories. -/
theorem projects_shared_root : let path := "/p/.ax/config.yaml"
    ((Config.load .ascii rootedProject.disk 2 path).map Except.isOk = some true) ∧
    ((Config.loadTree .ascii rootedProject.disk 2 path).bind Except.toOption).map (fun tree =>
      ((tree.nodes 0).map fun node => agents node.2,
        resolve (fun _ => .ok tree) "project" "orchestrator" (some path),
        resolve (fun _ => .ok tree) "project" "root.orchestrator" (some path))) =
      some ([["orchestrator"], ["root.orchestrator"]], .ok "project:root", .ok "project:root") := by
  decide +kernel

end Ax.Mcp
