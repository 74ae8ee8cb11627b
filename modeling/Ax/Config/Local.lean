import Ax.Foundation.Result
import Ax.Config.Document

/-!
# Loading a single configuration file

What the loaders see of the file system, where they look for the configuration of a
directory, and how one file becomes a configuration: it is read, its project gets a
name, the managed overlay is merged in, and directories, providers and prefixes are
filled in.

Main results:

- Theorem `isAbsolute_child`: so are the directories of the children that a loaded file names.
- Theorem `prefix_child`: a loaded child has an empty prefix only under an empty name.
-/

namespace Ax

namespace Path

variable {path : String}

lemma isAbsolute_join {other : String} (h : isAbsolute path = true) :
    isAbsolute (join path other) = true := by
  have hhead : path.toList.head? = some '/' := by simpa [isAbsolute] using h
  unfold join
  split
  · assumption
  · split <;> simp [isAbsolute, hhead]

lemma getLast?_join {other : String} {c : Char} (h : (join path other).toList.getLast? = some c) :
    c = '/' ∨ other.toList.getLast? = some c := by
  have happend : ∀ front : String, (front = "" ∨ front.toList.getLast? = some '/') →
      (front ++ other).toList.getLast? = some c → c = '/' ∨ other.toList.getLast? = some c := by
    intro front hfront hlast
    rw [String.toList_append, List.getLast?_append] at hlast
    rcases hother : other.toList.getLast? with _ | last
    · rw [hother, Option.none_or] at hlast
      rcases hfront with rfl | hfront
      · cases hlast
      · exact .inl (Option.some.inj (hlast.symm.trans hfront))
    · rw [hother, Option.some_or] at hlast
      exact .inr hlast
  unfold join at h
  split at h
  · exact .inr h
  · split at h
    · rename_i hend
      exact happend path (hend.imp_left (by simp)) h
    · exact happend (path ++ "/") (.inr (by simp)) h

lemma isAbsolute_ofSegments (rest : List String) : isAbsolute (ofSegments [""] rest) = true := by
  cases rest with
  | nil => rfl
  | cons segment rest => simp [ofSegments, isAbsolute, String.toList_intercalate]

lemma body_of_isAbsolute (h : isAbsolute path = true) : (body path).1 = [""] := by
  unfold body
  split
  · rename_i hnil
    simp [segments, List.splitOn] at hnil
  · rw [if_pos h]

lemma isAbsolute_parent {dir : String} (h : isAbsolute path = true)
    (hparent : parent path = some dir) : isAbsolute dir = true := by
  have hstart := body_of_isAbsolute h
  unfold parent at hparent
  split at hparent
  · rename_i start hbody
    rw [hbody] at hstart
    obtain rfl : start = [""] := hstart
    simp at hparent
  · rename_i start rest _ hbody
    rw [hbody] at hstart
    obtain rfl : start = [""] := hstart
    obtain rfl := Option.some.inj hparent
    exact isAbsolute_ofSegments _

lemma parent_isSome_of_fileName {name : String} (h : fileName path = some name) :
    (parent path).isSome = true := by
  unfold fileName at h
  unfold parent
  split
  · rename_i start hbody
    rw [hbody] at h
    cases h
  · rfl

end Path

namespace Config

/-! ## The file system -/

inductive IoErrorKind
  | notFound
  | other
deriving DecidableEq, Repr

structure IoError where
  kind : IoErrorKind
  message : String
deriving DecidableEq, Repr

structure Disk where
  read : String → Except IoError (Except String Json)
  isFile : String → Bool
  currentDir : Except IoError String
  home : Option String
  isAbsolute_currentDir : ∀ dir, currentDir = .ok dir → Path.isAbsolute dir = true
  unreadable : ∀ path, Path.parent path = none → ∃ e, read path = .error e

inductive LoadError
  | read (path : String) (source : IoError)
  | parse (path source : String)
deriving DecidableEq, Repr

def readDocument {α : Type} (disk : Disk) (codec : Codec α) (path : String) :
    Except LoadError α :=
  match disk.read path with
  | .error e => .error (.read path e)
  | .ok document => (document >>= codec.decode).mapError (.parse path)

/-- `Config::read_local`. -/
def readLocal (disk : Disk) (path : String) : Except LoadError Config :=
  readDocument disk configCodec path

/-! ## Places of configuration files -/

/-- `DEFAULT_CONFIG_FILE`. -/
def defaultConfigFile : String :=
  "config.yaml"

/-- `LEGACY_CONFIG_FILE`. -/
def legacyConfigFile : String :=
  "ax.yaml"

/-- `default_config_path`. -/
def defaultConfigPath (dir : String) : String :=
  Path.join (Path.join dir defaultConfigDir) defaultConfigFile

/-- `legacy_config_path`. -/
def legacyConfigPath (dir : String) : String :=
  Path.join dir legacyConfigFile

/-- `config_path_in_dir`. -/
def configPathInDir (disk : Disk) (dir : String) : Option String :=
  if disk.isFile (defaultConfigPath dir) then some (defaultConfigPath dir)
  else if disk.isFile (legacyConfigPath dir) then some (legacyConfigPath dir)
  else none

/-- `resolve_dir`, which the loader and the validation define alike. -/
def resolveDir (home : Option String) (base value : String) : String :=
  let value := if value = "" then "." else value
  match value.toList, home with
  | '~' :: '/' :: rest, some home => Path.join home (String.ofList rest)
  | _, _ => if Path.isAbsolute value then value else Path.join base value

/-- `absolutize`, which the loader and the validation define alike. -/
def absolutize (disk : Disk) (path : String) : Except LoadError String :=
  if Path.isAbsolute path then .ok path
  else
    match disk.currentDir with
    | .error e => .error (.read path e)
    | .ok cwd => .ok (Path.join cwd path)

/-! ## Managed overlays -/

/-- `MANAGED_OVERLAY_FILE`. -/
def managedOverlayFile : String :=
  "managed_overlay.yaml"

/-- `managed_overlay_path`; without a working directory the path stays relative. -/
def managedOverlayPath (disk : Disk) (configPath : String) : String :=
  let abs :=
    if Path.isAbsolute configPath then configPath
    else
      match disk.currentDir with
      | .ok cwd => Path.join cwd configPath
      | .error _ => configPath
  Path.join (Path.join (rootFromConfigPath abs) defaultConfigDir) managedOverlayFile

/-- `ManagedOverlay::load_for`: a missing file is the empty overlay. -/
def ManagedOverlay.loadFor (disk : Disk) (configPath : String) :
    Except LoadError ManagedOverlay :=
  let path := managedOverlayPath disk configPath
  match disk.read path with
  | .error e => if e.kind = .notFound then .ok .default else .error (.read path e)
  | .ok document => (document >>= overlayCodec.decode).mapError (.parse path)

/-! ## One file -/

/-- `initialize_local`: a project without a name is named after its directory. -/
def initializeLocal (cfg : Config) (path : String) : Config :=
  if cfg.project = "" then
    { cfg with project := (Path.fileName (rootFromConfigPath path)).getD "" }
  else cfg

def normalizeWorkspace (home : Option String) (projectDir fallbackEffort fallbackProvider : String)
    (ws : Workspace) : Workspace :=
  { ws with
    dir := resolveDir home projectDir ws.dir
    agentProvider :=
      if Text.trim ws.agentProvider = "" then fallbackProvider else ws.agentProvider
    codexModelReasoningEffort :=
      if Text.trim ws.codexModelReasoningEffort = "" then fallbackEffort
      else ws.codexModelReasoningEffort }

def normalizeChild (home : Option String) (projectDir name : String) (child : Child) : Child where
  dir := resolveDir home projectDir child.dir
  prefix_ := if child.prefix_ = "" then name else child.prefix_

/-- `normalize_local`. -/
def normalizeLocal (home : Option String) (cfg : Config) (path : String) : Config :=
  let projectDir := rootFromConfigPath path
  { cfg with
    workspaces := cfg.workspaces.map fun _ ws =>
      normalizeWorkspace home projectDir (Text.trim cfg.codexModelReasoningEffort)
        (Text.trim cfg.defaultAgentProvider) ws
    children := cfg.children.map fun name child => normalizeChild home projectDir name child }

def applyManagedOverlay (disk : Disk) (cfg : Config) (abs : String) : Except LoadError Config :=
  if cfg.experimentalMcpTeamReconfigure then
    (ManagedOverlay.loadFor disk abs).map fun overlay => overlay.applyTo cfg
  else .ok cfg

/-- `load_local_config`. -/
def loadLocalConfig (disk : Disk) (abs : String) : Except LoadError Config := do
  let cfg ← readLocal disk abs
  let cfg ← applyManagedOverlay disk (initializeLocal cfg abs) abs
  .ok (normalizeLocal disk.home cfg abs)

/-! ## Resolved directories -/

variable {base abs path : String} {home : Option String} {disk : Disk}

lemma resolveDir_of_isAbsolute {value : String} (h : Path.isAbsolute value = true) :
    resolveDir home base value = value := by
  have hhead : value.toList.head? = some '/' := by simpa [Path.isAbsolute] using h
  have hne : value ≠ "" := by
    rintro rfl
    cases hhead
  unfold resolveDir
  rw [if_neg hne]
  dsimp only
  split
  · rename_i hlist
    rw [hlist] at hhead
    cases hhead
  · rw [if_pos h]

lemma isAbsolute_resolveDir (hhome : ∀ dir, home = some dir → Path.isAbsolute dir = true)
    (hbase : Path.isAbsolute base = true) (value : String) :
    Path.isAbsolute (resolveDir home base value) = true := by
  unfold resolveDir
  dsimp only
  generalize (if value = "" then "." else value) = v
  split
  · exact Path.isAbsolute_join (hhome _ rfl)
  · split
    · assumption
    · exact Path.isAbsolute_join hbase

lemma getLast?_resolveDir {value : String} {c : Char}
    (h : (resolveDir home base value).toList.getLast? = some c) :
    c = '/' ∨ c = '.' ∨ value.toList.getLast? = some c := by
  unfold resolveDir at h
  dsimp only at h
  have hvalue : ∀ c, (if value = "" then "." else value).toList.getLast? = some c →
      c = '.' ∨ value.toList.getLast? = some c := by
    intro c hc
    split at hc
    · exact .inl (Option.some.inj hc).symm
    · exact .inr hc
  generalize (if value = "" then "." else value) = v at h hvalue
  split at h
  · rename_i rest home hlist
    rcases Path.getLast?_join h with rfl | hrest
    · exact .inl rfl
    · right
      apply hvalue
      rw [String.toList_ofList] at hrest
      rw [hlist, List.getLast?_cons_cons, List.getLast?_cons, hrest]
      rfl
  · split at h
    · exact .inr (hvalue c h)
    · exact (Path.getLast?_join h).imp_right (hvalue c)

lemma isAbsolute_absolutize (h : absolutize disk path = .ok abs) :
    Path.isAbsolute abs = true := by
  unfold absolutize at h
  split at h
  · cases h
    assumption
  · split at h
    · cases h
    · rename_i cwd hcwd
      obtain rfl := Except.ok.inj h
      exact Path.isAbsolute_join (disk.isAbsolute_currentDir cwd hcwd)

lemma absolutize_absolutize (h : absolutize disk path = .ok abs) :
    absolutize disk abs = .ok abs := by
  rw [absolutize, if_pos (isAbsolute_absolutize h)]

lemma parent_isSome_of_readLocal {cfg : Config} (h : readLocal disk path = .ok cfg) :
    (Path.parent path).isSome = true := by
  cases hparent : Path.parent path with
  | some dir => rfl
  | none =>
    obtain ⟨e, he⟩ := disk.unreadable path hparent
    simp [readLocal, readDocument, he] at h

lemma isAbsolute_rootFromConfigPath (h : Path.isAbsolute path = true)
    (hparent : (Path.parent path).isSome = true) :
    Path.isAbsolute (rootFromConfigPath path) = true := by
  obtain ⟨dir, hdir⟩ := Option.isSome_iff_exists.mp hparent
  have hdirabs := Path.isAbsolute_parent h hdir
  unfold rootFromConfigPath
  rw [hdir]
  simp only [Option.getD_some]
  split
  · rename_i hax
    cases hname : Path.fileName dir with
    | none =>
      rw [hname] at hax
      exact absurd hax (by decide)
    | some name =>
      obtain ⟨root, hroot⟩ := Option.isSome_iff_exists.mp (Path.parent_isSome_of_fileName hname)
      rw [hroot]
      exact Path.isAbsolute_parent hdirabs hroot
  · exact hdirabs

lemma loadLocalConfig_eq_ok {cfg : Config} (h : loadLocalConfig disk abs = .ok cfg) :
    ∃ raw merged, readLocal disk abs = .ok raw ∧
      applyManagedOverlay disk (initializeLocal raw abs) abs = .ok merged ∧
      cfg = normalizeLocal disk.home merged abs := by
  obtain ⟨raw, hraw, h⟩ := Result.bind_eq_ok.mp h
  obtain ⟨merged, hmerged, h⟩ := Result.bind_eq_ok.mp h
  exact ⟨raw, merged, hraw, hmerged, (Except.ok.inj h).symm⟩

section Loaded

variable {disk : Disk} {abs : String} {cfg : Config} {name : String} {child : Child}

lemma child_of_loadLocalConfig (h : loadLocalConfig disk abs = .ok cfg)
    (hchild : cfg.children[name]? = some child) :
    ∃ raw, child = normalizeChild disk.home (rootFromConfigPath abs) name raw := by
  obtain ⟨_, merged, _, _, rfl⟩ := loadLocalConfig_eq_ok h
  simp only [normalizeLocal, Std.ExtTreeMap.getElem?_map] at hchild
  obtain ⟨raw, _, hraw⟩ := Option.map_eq_some_iff.mp hchild
  exact ⟨raw, hraw.symm⟩

/-- The directories of the children that a loaded file names are absolute, if the home
directory is. -/
theorem isAbsolute_child (hhome : ∀ dir, disk.home = some dir → Path.isAbsolute dir = true)
    (habs : Path.isAbsolute abs = true) (h : loadLocalConfig disk abs = .ok cfg)
    (hchild : cfg.children[name]? = some child) : Path.isAbsolute child.dir = true := by
  obtain ⟨raw, _, hraw, _⟩ := loadLocalConfig_eq_ok h
  obtain ⟨_, rfl⟩ := child_of_loadLocalConfig h hchild
  exact isAbsolute_resolveDir hhome
    (isAbsolute_rootFromConfigPath habs (parent_isSome_of_readLocal hraw)) _

lemma trim_defaultAgentProvider {ws : Workspace} (h : loadLocalConfig disk abs = .ok cfg)
    (hws : cfg.workspaces[name]? = some ws) (hblank : Text.trim ws.agentProvider = "") :
    Text.trim cfg.defaultAgentProvider = "" := by
  obtain ⟨_, merged, _, _, rfl⟩ := loadLocalConfig_eq_ok h
  simp only [normalizeLocal, Std.ExtTreeMap.getElem?_map] at hws
  obtain ⟨raw, _, rfl⟩ := Option.map_eq_some_iff.mp hws
  simp only [normalizeWorkspace, normalizeLocal] at hblank ⊢
  split at hblank
  · rwa [Text.trim_trim] at hblank
  · contradiction

/-- A loaded child has an empty prefix only under an empty name. -/
theorem prefix_child (h : loadLocalConfig disk abs = .ok cfg)
    (hchild : cfg.children[name]? = some child) :
    (if child.prefix_ = "" then name else child.prefix_) = child.prefix_ := by
  obtain ⟨raw, rfl⟩ := child_of_loadLocalConfig h hchild
  simp only [normalizeChild]
  split <;> simp_all

end Loaded

end Config
end Ax
