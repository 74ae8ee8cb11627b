import Ax.Config.Local
import Ax.Daemon.Team.Overlay

/-!
# The effect of a change

An overlay decides about an entry by three maps: added, removed and disabled.  An accepted
change updates them, and the effective configuration follows: an added entry counts before
the other two maps are asked.  So a change has its stated effect except that an added entry
cannot be disabled, that enabling an entry that was added and removed gives nothing, and that
the directory of an added entry is resolved twice.

Main results:

- Theorem `change_effect_iff`: when a change has its stated effect.
-/

namespace Ax.Daemon
namespace Team

variable {S T : Type}

/-! ## Entries of the effective configuration -/

def EntryMaps.entry (maps : EntryMaps S) (base : BTreeMap String T) (ofSpec : S → T)
    (name : String) : Option T :=
  (maps.added[name]?.map ofSpec).or
    (if name ∈ maps.removed ∨ name ∈ maps.disabled then none else base[name]?)

lemma get?_insertAll_eraseAll (maps : EntryMaps S) (base : BTreeMap String T) (ofSpec : S → T)
    (name : String) :
    (insertAll (eraseAll (eraseAll base maps.removed.keys) maps.disabled.keys)
      (maps.added.toList.map fun entry => (entry.1, ofSpec entry.2)))[name]? =
        maps.entry base ofSpec name := by
  unfold insertAll eraseAll
  rw [BTreeMap.get?_foldl_insert_toList, BTreeMap.get?_foldl_erase, BTreeMap.get?_foldl_erase]
  unfold EntryMaps.entry
  simp only [Std.ExtTreeMap.mem_keys]
  by_cases hremoved : name ∈ maps.removed
  · simp [hremoved]
  · simp [hremoved]

def workspaceMaps (overlay : TeamOverlay) : EntryMaps TeamWorkspaceSpec where
  added := overlay.addedWorkspaces
  removed := overlay.removedWorkspaces
  disabled := overlay.disabledWorkspaces

def childMaps (overlay : TeamOverlay) : EntryMaps TeamChildSpec where
  added := overlay.addedChildren
  removed := overlay.removedChildren
  disabled := overlay.disabledChildren

def baseWorkspaces (env : TeamEnv) (root : String) (raw : Config) :
    BTreeMap String Config.Workspace :=
  raw.workspaces.map fun _ ws => { ws with dir := resolveOverlayDir env root ws.dir }

def baseChildren (env : TeamEnv) (root : String) (raw : Config) : BTreeMap String Config.Child :=
  raw.children.map fun _ child => { child with dir := resolveOverlayDir env root child.dir }

lemma get?_overlaidWorkspaces (env : TeamEnv) (root : String) (raw : Config)
    (overlay : TeamOverlay) (name : String) :
    (overlaidWorkspaces env root raw overlay)[name]? =
      (workspaceMaps overlay).entry (baseWorkspaces env root raw) (workspaceOfSpec env root)
        name :=
  get?_insertAll_eraseAll (workspaceMaps overlay) (baseWorkspaces env root raw) _ name

lemma get?_overlaidChildren (env : TeamEnv) (root : String) (raw : Config)
    (overlay : TeamOverlay) (name : String) :
    (overlaidChildren env root raw overlay)[name]? =
      (childMaps overlay).entry (baseChildren env root raw) (childOfSpec env root) name :=
  get?_insertAll_eraseAll (childMaps overlay) (baseChildren env root raw) _ name

/-! ## Accepted changes -/

inductive EntryChange (kind : EntryKind S) (present : String → Bool) (maps : EntryMaps S)
    (name : String) (spec : Option S) : TeamChangeOp → EntryMaps S → List String → Prop
  | add {given resolved : S} (hspec : spec = some given) (habsent : present name = false)
      (hresolve : kind.resolve given = .ok resolved) :
      EntryChange kind present maps name spec .add
        ⟨maps.added.insert name resolved, maps.removed.erase name, maps.disabled.erase name⟩ []
  | remove (hpresent : present name = true) :
      EntryChange kind present maps name spec .remove
        ⟨maps.added.erase name, maps.removed.insert name true, maps.disabled.erase name⟩ []
  | disable (hpresent : present name = true) :
      EntryChange kind present maps name spec .disable
        ⟨maps.added, maps.removed.erase name, maps.disabled.insert name true⟩ []
  | enableRemoved (hremoved : name ∈ maps.removed) :
      EntryChange kind present maps name spec .enable
        ⟨maps.added, maps.removed.erase name, maps.disabled⟩ []
  | enableDisabled (hremoved : name ∉ maps.removed) (hdisabled : name ∈ maps.disabled) :
      EntryChange kind present maps name spec .enable
        ⟨maps.added, maps.removed, maps.disabled.erase name⟩ []
  | nothing {op : TeamChangeOp} {warning : String} :
      EntryChange kind present maps name spec op maps [warning]

lemma applyEntryChange_cases {env : TeamEnv} {kind : EntryKind S} {present : String → Bool}
    {maps maps' : EntryMaps S} {op : TeamChangeOp} {rawName : String} {spec : Option S}
    {warnings : List String}
    (h : applyEntryChange env kind present maps op rawName spec = .ok (maps', warnings)) :
    EntryChange kind present maps (Text.trim rawName) spec op maps' warnings := by
  unfold applyEntryChange at h
  dsimp only at h
  split at h
  · cases h
  · cases op with
    | add =>
      dsimp only at h
      split at h
      · cases h
      · split at h
        · cases h
        · rename_i habsent
          split at h
          · cases h
          · rename_i hresolve
            cases h
            exact .add rfl (by simpa using habsent) hresolve
    | remove =>
      dsimp only at h
      split at h
      · rename_i hpresent
        cases h
        exact .remove hpresent
      · cases h
        exact .nothing
    | disable =>
      dsimp only at h
      split at h
      · rename_i hpresent
        cases h
        exact .disable hpresent
      · cases h
        exact .nothing
    | enable =>
      dsimp only at h
      split at h
      · rename_i hremoved
        cases h
        exact .enableRemoved (by simpa using hremoved)
      · rename_i hremoved
        split at h
        · rename_i hdisabled
          cases h
          exact .enableDisabled (by simpa using hremoved) (by simpa using hdisabled)
        · cases h
          exact .nothing

structure EntryMaps.Consistent (maps : EntryMaps S) (base : BTreeMap String T) : Prop where
  added : ∀ name ∈ maps.added, name ∉ maps.removed
  removed : ∀ name ∈ maps.removed, name ∉ maps.disabled
  disabled : ∀ name ∈ maps.disabled, name ∈ maps.added ∨ name ∈ base

def Shows (op : TeamChangeOp) (given entry : Option T) : Prop :=
  match op with
  | .add => given.isSome = true ∧ entry = given
  | .enable => entry.isSome = true
  | .remove | .disable => entry = none

namespace EntryChange

variable {kind : EntryKind S} {present : String → Bool} {maps maps' : EntryMaps S}
  {name : String} {spec : Option S} {op : TeamChangeOp} {warnings : List String}
  {base : BTreeMap String T} {ofSpec : S → T}

lemma of_ne (h : EntryChange kind present maps name spec op maps' warnings) {other : String}
    (hne : other ≠ name) :
    maps'.added[other]? = maps.added[other]? ∧
      (other ∈ maps'.removed ↔ other ∈ maps.removed) ∧
      (other ∈ maps'.disabled ↔ other ∈ maps.disabled) := by
  cases h <;> simp [BTreeMap.get?_insert, BTreeMap.get?_erase, hne, Ne.symm hne]

lemma entry_of_ne (h : EntryChange kind present maps name spec op maps' warnings) {other : String}
    (hne : other ≠ name) : maps'.entry base ofSpec other = maps.entry base ofSpec other := by
  obtain ⟨hadded, hremoved, hdisabled⟩ := h.of_ne hne
  simp only [EntryMaps.entry, hadded, hremoved, hdisabled]

lemma mem_of_present (hpresent : (maps.entry base ofSpec name).isSome = true) :
    name ∈ maps.added ∨ name ∈ base := by
  rw [EntryMaps.entry, Option.isSome_or, Bool.or_eq_true, Option.isSome_map] at hpresent
  rcases hpresent with hadded | hbase
  · exact .inl (Std.ExtTreeMap.mem_iff_isSome_getElem?.mpr hadded)
  · split at hbase
    · cases hbase
    · exact .inr (Std.ExtTreeMap.mem_iff_isSome_getElem?.mpr hbase)

lemma self (h : EntryChange kind present maps name spec op maps' warnings)
    (hpresent : ∀ name, present name = (maps.entry base ofSpec name).isSome)
    (hmaps : maps.Consistent base) :
    (name ∈ maps'.added → name ∉ maps'.removed) ∧
      (name ∈ maps'.removed → name ∉ maps'.disabled) ∧
      (name ∈ maps'.disabled → name ∈ maps'.added ∨ name ∈ base) := by
  have hadded := hmaps.added name
  have hremoved := hmaps.removed name
  have hdisabled := hmaps.disabled name
  cases h with
  | nothing => exact ⟨hadded, hremoved, hdisabled⟩
  | add => simp
  | remove => simp
  | disable hname =>
    have hmem := mem_of_present ((hpresent name).symm.trans hname)
    simpa using hmem
  | enableRemoved => simpa using hdisabled
  | enableDisabled => simpa using hadded

lemma consistent (h : EntryChange kind present maps name spec op maps' warnings)
    (hpresent : ∀ name, present name = (maps.entry base ofSpec name).isSome)
    (hmaps : maps.Consistent base) : maps'.Consistent base := by
  have hself := h.self hpresent hmaps
  have hothers : ∀ other, other ≠ name → (other ∈ maps'.added ↔ other ∈ maps.added) ∧
        (other ∈ maps'.removed ↔ other ∈ maps.removed) ∧
        (other ∈ maps'.disabled ↔ other ∈ maps.disabled) := by
    intro other hne
    obtain ⟨hadded, hrest⟩ := h.of_ne hne
    refine ⟨?_, hrest⟩
    rw [Std.ExtTreeMap.mem_iff_isSome_getElem?, Std.ExtTreeMap.mem_iff_isSome_getElem?, hadded]
  refine ⟨fun other => ?_, fun other => ?_, fun other => ?_⟩
  · by_cases hne : other = name
    · subst hne
      exact hself.1
    · rw [(hothers other hne).1, (hothers other hne).2.1]
      exact hmaps.added other
  · by_cases hne : other = name
    · subst hne
      exact hself.2.1
    · rw [(hothers other hne).2.1, (hothers other hne).2.2]
      exact hmaps.removed other
  · by_cases hne : other = name
    · subst hne
      exact hself.2.2
    · rw [(hothers other hne).1, (hothers other hne).2.2]
      exact hmaps.disabled other

lemma resolve_of_add (h : EntryChange kind present maps name spec op maps' []) (hadd : op = .add)
    {given : S} (hspec : spec = some given) : ∃ resolved, kind.resolve given = .ok resolved := by
  cases h with
  | add hgiven _ hresolve =>
    obtain rfl := Option.some.inj (hspec.symm.trans hgiven)
    exact ⟨_, hresolve⟩
  | remove | disable | enableRemoved | enableDisabled => cases hadd

lemma shows_iff (h : EntryChange kind present maps name spec op maps' []) (ofSpec : S → T)
    (hmaps : maps.Consistent base) :
    Shows op (spec.map ofSpec) (maps'.entry base ofSpec name) ↔
      (op = .add → ∀ given resolved, spec = some given → kind.resolve given = .ok resolved →
        ofSpec resolved = ofSpec given) ∧
      (op = .disable → name ∉ maps.added) ∧
      (op = .enable → name ∈ maps.removed → name ∈ base) := by
  cases h with
  | @add given resolved hspec habsent hresolve =>
    have hentry : EntryMaps.entry ⟨maps.added.insert name resolved, maps.removed.erase name,
        maps.disabled.erase name⟩ base ofSpec name = some (ofSpec resolved) := by
      simp [EntryMaps.entry]
    have hiff : (∀ given' resolved', given = given' → kind.resolve given' = .ok resolved' →
        ofSpec resolved' = ofSpec given') ↔ ofSpec resolved = ofSpec given := by
      constructor
      · intro hall
        exact hall given resolved rfl hresolve
      · rintro heq _ _ rfl hresolve'
        obtain rfl := Except.ok.inj (hresolve.symm.trans hresolve')
        exact heq
    rw [hentry]
    simp [Shows, hspec, hiff]
  | remove hpresent => simp [Shows, EntryMaps.entry]
  | disable hpresent => simp [Shows, EntryMaps.entry]
  | enableRemoved hremoved =>
    have hadded : maps.added[name]? = none := by
      simpa using fun hadded => hmaps.added name hadded hremoved
    have hdisabled := hmaps.removed name hremoved
    simp [Shows, EntryMaps.entry, hadded, hdisabled, hremoved]
  | enableDisabled hremoved hdisabled =>
    have hmem := hmaps.disabled name hdisabled
    simpa [Shows, EntryMaps.entry, hremoved] using hmem

end EntryChange

/-! ## Overlays -/

lemma EntryMaps.consistent_map {U : Type} {maps : EntryMaps S} {base : BTreeMap String T}
    {f : String → T → U} : maps.Consistent (base.map f) ↔ maps.Consistent base := by
  constructor
  · rintro ⟨hadded, hremoved, hdisabled⟩
    exact ⟨hadded, hremoved, fun name hname => by simpa using hdisabled name hname⟩
  · rintro ⟨hadded, hremoved, hdisabled⟩
    exact ⟨hadded, hremoved, fun name hname => by simpa using hdisabled name hname⟩

section Overlay

variable {env : TeamEnv} {base : String} {raw cur : Config} {overlay overlay' : TeamOverlay}
  {change : TeamReconfigureChange} {warnings : List String}

lemma materializeRawConfig_eq (hraw : env.files.readLocal base = .ok raw)
    (overlay : TeamOverlay) :
    materializeRawConfig env base overlay = .ok
      { raw with
        disableRootOrchestrator :=
          overlay.disableRootOrchestrator.getD raw.disableRootOrchestrator
        workspaces := overlaidWorkspaces env (configRootDir base) raw overlay
        children := overlaidChildren env (configRootDir base) raw overlay } := by
  simp [materializeRawConfig, loadRawConfig, hraw, Except.mapError, Except.map]

lemma applySingleChange_cases
    (h : applySingleChange env base cur overlay change = .ok (overlay', warnings)) :
    (change.kind = .workspace ∧
      EntryChange (workspaceEntries env base) cur.workspaces.contains (workspaceMaps overlay)
        (Text.trim change.name) change.workspace change.op (workspaceMaps overlay') warnings ∧
      childMaps overlay' = childMaps overlay ∧
      overlay'.disableRootOrchestrator = overlay.disableRootOrchestrator) ∨
    (change.kind = .child ∧
      EntryChange (childEntries env base) cur.children.contains (childMaps overlay)
        (Text.trim change.name) change.child change.op (childMaps overlay') warnings ∧
      workspaceMaps overlay' = workspaceMaps overlay ∧
      overlay'.disableRootOrchestrator = overlay.disableRootOrchestrator) ∨
    (change.kind = .rootOrchestrator ∧ workspaceMaps overlay' = workspaceMaps overlay ∧
      childMaps overlay' = childMaps overlay) := by
  unfold applySingleChange at h
  split at h
  · rename_i hkind
    obtain ⟨⟨maps', _⟩, hentry, heq⟩ := Result.map_eq_ok.mp h
    cases heq
    exact .inl ⟨hkind, applyEntryChange_cases hentry, rfl, rfl⟩
  · rename_i hkind
    obtain ⟨⟨maps', _⟩, hentry, heq⟩ := Result.map_eq_ok.mp h
    cases heq
    exact .inr (.inl ⟨hkind, applyEntryChange_cases hentry, rfl, rfl⟩)
  · rename_i hkind
    unfold applyRootOrchestratorChange at h
    refine .inr (.inr ⟨hkind, ?_⟩)
    split at h
    · cases h
      exact ⟨rfl, rfl⟩
    · cases h
      exact ⟨rfl, rfl⟩
    · cases h
    · cases h

structure Consistent (raw : Config) (overlay : TeamOverlay) : Prop where
  workspaces : (workspaceMaps overlay).Consistent raw.workspaces
  children : (childMaps overlay).Consistent raw.children

lemma Consistent.baseWorkspaces (h : Consistent raw overlay) (env : TeamEnv) (root : String) :
    (workspaceMaps overlay).Consistent (Team.baseWorkspaces env root raw) :=
  EntryMaps.consistent_map.mpr h.workspaces

lemma Consistent.baseChildren (h : Consistent raw overlay) (env : TeamEnv) (root : String) :
    (childMaps overlay).Consistent (Team.baseChildren env root raw) :=
  EntryMaps.consistent_map.mpr h.children

section Materialized

variable (hraw : env.files.readLocal base = .ok raw)
  (hcur : materializeRawConfig env base overlay = .ok cur)
include hraw hcur

lemma get?_workspaces (name : String) :
    cur.workspaces[name]? =
      (workspaceMaps overlay).entry (baseWorkspaces env (configRootDir base) raw)
        (workspaceOfSpec env (configRootDir base)) name := by
  rw [materializeRawConfig_eq hraw] at hcur
  obtain rfl := Except.ok.inj hcur
  exact get?_overlaidWorkspaces env (configRootDir base) raw overlay name

lemma get?_children (name : String) :
    cur.children[name]? =
      (childMaps overlay).entry (baseChildren env (configRootDir base) raw)
        (childOfSpec env (configRootDir base)) name := by
  rw [materializeRawConfig_eq hraw] at hcur
  obtain rfl := Except.ok.inj hcur
  exact get?_overlaidChildren env (configRootDir base) raw overlay name

lemma contains_workspaces (name : String) :
    cur.workspaces.contains name =
      ((workspaceMaps overlay).entry (baseWorkspaces env (configRootDir base) raw)
        (workspaceOfSpec env (configRootDir base)) name).isSome := by
  rw [Std.ExtTreeMap.contains_eq_isSome_getElem?, get?_workspaces hraw hcur]

lemma contains_children (name : String) :
    cur.children.contains name =
      ((childMaps overlay).entry (baseChildren env (configRootDir base) raw)
        (childOfSpec env (configRootDir base)) name).isSome := by
  rw [Std.ExtTreeMap.contains_eq_isSome_getElem?, get?_children hraw hcur]

lemma disableRootOrchestrator_eq :
    cur.disableRootOrchestrator =
      overlay.disableRootOrchestrator.getD raw.disableRootOrchestrator := by
  rw [materializeRawConfig_eq hraw] at hcur
  obtain rfl := Except.ok.inj hcur
  rfl

lemma Consistent.applySingleChange (hoverlay : Consistent raw overlay)
    (h : Team.applySingleChange env base cur overlay change = .ok (overlay', warnings)) :
    Consistent raw overlay' := by
  rcases applySingleChange_cases h with
    ⟨_, hentry, hchildren, _⟩ | ⟨_, hentry, hworkspaces, _⟩ | ⟨_, hworkspaces, hchildren⟩
  · refine ⟨?_, hchildren ▸ hoverlay.children⟩
    exact EntryMaps.consistent_map.mp
      (hentry.consistent (contains_workspaces hraw hcur) (hoverlay.baseWorkspaces env _))
  · refine ⟨hworkspaces ▸ hoverlay.workspaces, ?_⟩
    exact EntryMaps.consistent_map.mp
      (hentry.consistent (contains_children hraw hcur) (hoverlay.baseChildren env _))
  · exact ⟨hworkspaces ▸ hoverlay.workspaces, hchildren ▸ hoverlay.children⟩

lemma Consistent.applyChangesLoop (hoverlay : Consistent raw overlay)
    {changes : List TeamReconfigureChange} {before after : List String}
    (h : Team.applyChangesLoop env base changes cur overlay before = .ok (overlay', after)) :
    Consistent raw overlay' := by
  induction changes generalizing cur overlay before with
  | nil =>
    cases h
    exact hoverlay
  | cons change rest ih =>
    rw [Team.applyChangesLoop] at h
    obtain ⟨⟨overlay₁, added⟩, hchange, h⟩ := Result.bind_eq_ok.mp h
    obtain ⟨cur₁, hcur₁, h⟩ := Result.bind_eq_ok.mp h
    exact ih hcur₁ (hoverlay.applySingleChange hraw hcur hchange) h

end Materialized

lemma renewed_eq (m : BTreeMap String S) : renewed m = m := by
  unfold renewed
  split
  · rename_i hempty
    exact (Std.ExtTreeMap.isEmpty_iff.mp hempty).symm
  · rfl

lemma normalizeOverlay_eq (overlay : TeamOverlay) : normalizeOverlay overlay = overlay := by
  simp only [normalizeOverlay, renewed_eq]

end Overlay

inductive Reachable (base : String) (raw : Config) : TeamOverlay → Prop
  | default : Reachable base raw TeamOverlay.default
  | apply {env : TeamEnv} {overlay overlay' : TeamOverlay}
      {changes : List TeamReconfigureChange} {warnings : List String}
      (hoverlay : Reachable base raw overlay) (hraw : env.files.readLocal base = .ok raw)
      (happly : applyChanges env base overlay changes = .ok (overlay', warnings)) :
      Reachable base raw overlay'

lemma consistent_of_reachable {base : String} {raw : Config} {overlay : TeamOverlay}
    (h : Reachable base raw overlay) : Consistent raw overlay := by
  induction h with
  | default =>
    refine ⟨⟨?_, ?_, ?_⟩, ⟨?_, ?_, ?_⟩⟩ <;> simp [workspaceMaps, childMaps, TeamOverlay.default]
  | apply _ hraw happly ih =>
    obtain ⟨cur, hcur, happly⟩ := Result.bind_eq_ok.mp happly
    obtain ⟨⟨overlay₁, warnings₁⟩, hloop, heq⟩ := Result.bind_eq_ok.mp happly
    cases heq
    rw [normalizeOverlay_eq]
    exact ih.applyChangesLoop hraw hcur hloop

/-! ## Stated effects -/

structure WorkspaceEffect (env : TeamEnv) (root : String) (change : TeamReconfigureChange)
    (before after : Config) : Prop where
  shown : Shows change.op (change.workspace.map (workspaceOfSpec env root))
    after.workspaces[Text.trim change.name]?
  others : ∀ name, name ≠ Text.trim change.name →
    after.workspaces[name]? = before.workspaces[name]?
  children : after.children = before.children
  rootOrchestrator : after.disableRootOrchestrator = before.disableRootOrchestrator

structure ChildEffect (env : TeamEnv) (root : String) (change : TeamReconfigureChange)
    (before after : Config) : Prop where
  shown : Shows change.op (change.child.map (childOfSpec env root))
    after.children[Text.trim change.name]?
  others : ∀ name, name ≠ Text.trim change.name →
    after.children[name]? = before.children[name]?
  workspaces : after.workspaces = before.workspaces
  rootOrchestrator : after.disableRootOrchestrator = before.disableRootOrchestrator

def ResolvesOnce (env : TeamEnv) (root dir : String) : Prop :=
  resolveOverlayDir env root (resolveOverlayDir env root dir) = resolveOverlayDir env root dir

lemma resolveOverlayDir_eq (env : TeamEnv) (root dir : String) :
    resolveOverlayDir env root dir = Config.resolveDir env.home root (Text.trim dir) :=
  rfl

lemma resolvesOnce_of_isAbsolute {env : TeamEnv} {root : String}
    (hhome : ∀ dir, env.home = some dir → Path.isAbsolute dir = true)
    (hroot : Path.isAbsolute root = true) (dir : String) : ResolvesOnce env root dir := by
  have habs := Config.isAbsolute_resolveDir hhome hroot (Text.trim dir)
  unfold ResolvesOnce
  rw [resolveOverlayDir_eq, resolveOverlayDir_eq, Text.trim_of_ends,
    Config.resolveDir_of_isAbsolute habs]
  · intro c hc
    obtain rfl : c = '/' := by simpa [Path.isAbsolute, hc] using habs
    rfl
  · intro c hc
    rcases Config.getLast?_resolveDir hc with rfl | rfl | hdir
    · rfl
    · rfl
    · exact Text.isWhitespace_of_getLast?_trim hdir

section Effects

variable {env : TeamEnv} {base : String} {raw cur next : Config}
  {overlay overlay' : TeamOverlay} {change : TeamReconfigureChange}

lemma workspaceOfSpec_resolved_iff {root : String} {spec : TeamWorkspaceSpec} :
    workspaceOfSpec env root { spec with dir := resolveOverlayDir env root spec.dir } =
      workspaceOfSpec env root spec ↔ ResolvesOnce env root spec.dir := by
  simp [workspaceOfSpec, ResolvesOnce]

lemma childOfSpec_resolved_iff {root : String} {spec : TeamChildSpec} :
    childOfSpec env root { spec with dir := resolveOverlayDir env root spec.dir } =
      childOfSpec env root spec ↔ ResolvesOnce env root spec.dir := by
  simp [childOfSpec, ResolvesOnce]

lemma eq_of_resolve_childEntries {spec resolved : TeamChildSpec}
    (h : (childEntries env base).resolve spec = .ok resolved) :
    resolved = { spec with dir := resolveOverlayDir env (configRootDir base) spec.dir } := by
  unfold childEntries at h
  dsimp only at h
  split at h
  · cases h
  · exact (Except.ok.inj h).symm

variable (hraw : env.files.readLocal base = .ok raw)
  (hcur : materializeRawConfig env base overlay = .ok cur)
  (hnext : materializeRawConfig env base overlay' = .ok next)
include hraw hcur hnext

lemma workspaces_eq_of_maps (hmaps : workspaceMaps overlay' = workspaceMaps overlay) :
    next.workspaces = cur.workspaces := by
  refine Std.ExtTreeMap.ext_getElem? fun name => ?_
  rw [get?_workspaces hraw hnext, get?_workspaces hraw hcur, hmaps]

lemma children_eq_of_maps (hmaps : childMaps overlay' = childMaps overlay) :
    next.children = cur.children := by
  refine Std.ExtTreeMap.ext_getElem? fun name => ?_
  rw [get?_children hraw hnext, get?_children hraw hcur, hmaps]

lemma workspaceEffect_iff (hoverlay : Consistent raw overlay)
    (hentry : EntryChange (workspaceEntries env base) cur.workspaces.contains
      (workspaceMaps overlay) (Text.trim change.name) change.workspace change.op
      (workspaceMaps overlay') []) (hchildren : childMaps overlay' = childMaps overlay)
    (hflag : overlay'.disableRootOrchestrator = overlay.disableRootOrchestrator) :
    WorkspaceEffect env (configRootDir base) change cur next ↔
      (change.op = .add → ∀ spec, change.workspace = some spec →
        ResolvesOnce env (configRootDir base) spec.dir) ∧
      (change.op = .disable → Text.trim change.name ∉ overlay.addedWorkspaces) ∧
      (change.op = .enable → Text.trim change.name ∈ overlay.removedWorkspaces →
        Text.trim change.name ∈ raw.workspaces) := by
  have hshows := hentry.shows_iff (workspaceOfSpec env (configRootDir base))
    (hoverlay.baseWorkspaces env (configRootDir base))
  rw [← get?_workspaces hraw hnext] at hshows
  have hiff : WorkspaceEffect env (configRootDir base) change cur next ↔
      Shows change.op (change.workspace.map (workspaceOfSpec env (configRootDir base)))
        next.workspaces[Text.trim change.name]? := by
    refine ⟨WorkspaceEffect.shown, fun hshown => ⟨hshown, fun name hne => ?_, ?_, ?_⟩⟩
    · rw [get?_workspaces hraw hnext, get?_workspaces hraw hcur, hentry.entry_of_ne hne]
    · exact children_eq_of_maps hraw hcur hnext hchildren
    · rw [disableRootOrchestrator_eq hraw hnext, disableRootOrchestrator_eq hraw hcur, hflag]
  rw [hiff, hshows]
  simp [workspaceEntries, workspaceOfSpec_resolved_iff, workspaceMaps, baseWorkspaces]

lemma childEffect_iff (hoverlay : Consistent raw overlay)
    (hentry : EntryChange (childEntries env base) cur.children.contains (childMaps overlay)
      (Text.trim change.name) change.child change.op (childMaps overlay') [])
    (hworkspaces : workspaceMaps overlay' = workspaceMaps overlay)
    (hflag : overlay'.disableRootOrchestrator = overlay.disableRootOrchestrator) :
    ChildEffect env (configRootDir base) change cur next ↔
      (change.op = .add → ∀ spec, change.child = some spec →
        ResolvesOnce env (configRootDir base) spec.dir) ∧
      (change.op = .disable → Text.trim change.name ∉ overlay.addedChildren) ∧
      (change.op = .enable → Text.trim change.name ∈ overlay.removedChildren →
        Text.trim change.name ∈ raw.children) := by
  have hshows := hentry.shows_iff (childOfSpec env (configRootDir base))
    (hoverlay.baseChildren env (configRootDir base))
  rw [← get?_children hraw hnext] at hshows
  have hiff : ChildEffect env (configRootDir base) change cur next ↔
      Shows change.op (change.child.map (childOfSpec env (configRootDir base)))
        next.children[Text.trim change.name]? := by
    refine ⟨ChildEffect.shown, fun hshown => ⟨hshown, fun name hne => ?_, ?_, ?_⟩⟩
    · rw [get?_children hraw hnext, get?_children hraw hcur, hentry.entry_of_ne hne]
    · exact workspaces_eq_of_maps hraw hcur hnext hworkspaces
    · rw [disableRootOrchestrator_eq hraw hnext, disableRootOrchestrator_eq hraw hcur, hflag]
  rw [hiff, hshows]
  refine and_congr ?_ (by simp [childMaps, baseChildren])
  refine forall_congr' fun hadd => forall_congr' fun spec => ?_
  constructor
  · intro h hspec
    -- A child whose resolved directory is blank would not have been accepted.
    obtain ⟨resolved, hresolved⟩ := hentry.resolve_of_add hadd hspec
    have heq := h resolved hspec hresolved
    rw [eq_of_resolve_childEntries hresolved] at heq
    exact childOfSpec_resolved_iff.mp heq
  · intro h resolved hspec hresolved
    rw [eq_of_resolve_childEntries hresolved]
    exact childOfSpec_resolved_iff.mpr (h hspec)

end Effects

/-- An accepted change has its stated effect unless it disables an added entry, enables a
removed entry that is not in the base, or adds one whose directory resolves otherwise the
second time. -/
theorem change_effect_iff {env : TeamEnv} {base : String} {raw cur : Config}
    {overlay overlay' : TeamOverlay} {change : TeamReconfigureChange}
    (hoverlay : Reachable base raw overlay) (hraw : env.files.readLocal base = .ok raw)
    (hcur : materializeRawConfig env base overlay = .ok cur)
    (h : applySingleChange env base cur overlay change = .ok (overlay', [])) :
    ∃ next, materializeRawConfig env base overlay' = .ok next ∧
      (change.kind = .workspace →
        (WorkspaceEffect env (configRootDir base) change cur next ↔
          (change.op = .add → ∀ spec, change.workspace = some spec →
            ResolvesOnce env (configRootDir base) spec.dir) ∧
          (change.op = .disable → Text.trim change.name ∉ overlay.addedWorkspaces) ∧
          (change.op = .enable → Text.trim change.name ∈ overlay.removedWorkspaces →
            Text.trim change.name ∈ raw.workspaces))) ∧
      (change.kind = .child →
        (ChildEffect env (configRootDir base) change cur next ↔
          (change.op = .add → ∀ spec, change.child = some spec →
            ResolvesOnce env (configRootDir base) spec.dir) ∧
          (change.op = .disable → Text.trim change.name ∉ overlay.addedChildren) ∧
          (change.op = .enable → Text.trim change.name ∈ overlay.removedChildren →
            Text.trim change.name ∈ raw.children))) := by
  have hconsistent := consistent_of_reachable hoverlay
  have hnext := materializeRawConfig_eq hraw overlay'
  refine ⟨_, hnext, ?_⟩
  rcases applySingleChange_cases h with
    ⟨hkind, hentry, hmaps, hflag⟩ | ⟨hkind, hentry, hmaps, hflag⟩ | ⟨hkind, _⟩
  · refine ⟨fun _ => ?_, fun hchild => by simp [hkind] at hchild⟩
    exact workspaceEffect_iff hraw hcur hnext hconsistent hentry hmaps hflag
  · refine ⟨fun hworkspace => by simp [hkind] at hworkspace, fun _ => ?_⟩
    exact childEffect_iff hraw hcur hnext hconsistent hentry hmaps hflag
  · exact ⟨fun hworkspace => by simp [hkind] at hworkspace,
      fun hchild => by simp [hkind] at hchild⟩

def readingsOf (raw : Config) : TeamEnv where
  unicode := Unicode.ascii
  home := some "/home/me"
  flag := some "true"
  absolute := fun path => .ok path
  shortTeamHash := fun _ => "0a1b2c"
  now := 0
  files :=
    { readLocal := fun _ => .ok raw
      load := fun _ => .ok raw
      loadTree := fun _ => .ok ⟨"", "", "", "/p", "", false, [], []⟩
      save := fun _ _ => .ok ()
      createDirAll := fun _ => .ok () }
  write := .done

def emptyBase : TeamEnv :=
  readingsOf Config.default

def devSpec : TeamWorkspaceSpec :=
  ⟨"dev", "", "", "", "", "", "", "", ∅⟩

def addDev : TeamReconfigureChange :=
  ⟨.add, .workspace, "dev", some devSpec, none⟩

def disableDev : TeamReconfigureChange :=
  ⟨.disable, .workspace, "dev", none, none⟩

def devAdded : TeamOverlay :=
  { TeamOverlay.default with
    addedWorkspaces := (∅ : BTreeMap String TeamWorkspaceSpec).insert "dev"
      { devSpec with dir := "/p/dev" } }

/-- An added workspace is there as given. -/
theorem change_effect_addDev :
    ∃ next, materializeRawConfig emptyBase "/p/ax.yaml" .default = .ok Config.default ∧
      applySingleChange emptyBase "/p/ax.yaml" Config.default .default addDev = .ok (devAdded, []) ∧
      materializeRawConfig emptyBase "/p/ax.yaml" devAdded = .ok next ∧
      WorkspaceEffect emptyBase "/p" addDev Config.default next := by
  have hcur : materializeRawConfig emptyBase "/p/ax.yaml" .default = .ok Config.default := by
    decide +kernel
  have hchange : applySingleChange emptyBase "/p/ax.yaml" Config.default .default addDev =
      .ok (devAdded, []) := by
    decide +kernel
  obtain ⟨next, hnext, heffect, _⟩ := change_effect_iff .default rfl hcur hchange
  refine ⟨next, hcur, hchange, hnext, (heffect rfl).mpr ⟨fun _ spec _ => ?_, ?_, ?_⟩⟩
  · exact resolvesOnce_of_isAbsolute (by decide) (by decide) spec.dir
  · decide
  · decide

/-- A disabled workspace stays in the effective configuration if it was added. -/
theorem disable_addedWorkspace :
    ∃ overlay' cur next, Reachable "/p/ax.yaml" Config.default devAdded ∧
      materializeRawConfig emptyBase "/p/ax.yaml" devAdded = .ok cur ∧
      applySingleChange emptyBase "/p/ax.yaml" cur devAdded disableDev = .ok (overlay', []) ∧
      materializeRawConfig emptyBase "/p/ax.yaml" overlay' = .ok next ∧
      "dev" ∈ next.workspaces := by
  have hadd : applyChanges emptyBase "/p/ax.yaml" .default [addDev] = .ok (devAdded, []) := by
    decide +kernel
  have hreachable : Reachable "/p/ax.yaml" Config.default devAdded := by
    refine .apply .default ?_ hadd
    rfl
  have hread : emptyBase.files.readLocal "/p/ax.yaml" = .ok Config.default := rfl
  refine ⟨{ devAdded with disabledWorkspaces := (∅ : BTreeMap String Bool).insert "dev" true },
    _, _, hreachable, materializeRawConfig_eq hread _, ?_, materializeRawConfig_eq hread _, ?_⟩
  · decide +kernel
  · decide +kernel

end Team
end Ax.Daemon
