import Ax.Config.Validate
import Ax.Usage.CountedOnce
import Ax.Workspace.Artifacts

/-!
# Fresh starts

A fresh start of an agent removes the state that its runtime keeps for it: the project directory
of Claude, which is named after the workspace's directory, or the Codex home, which is named
after the workspace as well.  A workspace's name may hold separators, so that a Codex home can lie
below another one, or elsewhere.

Main results:

- Theorem `fresh_start_spares_iff`: when a fresh start spares the state of another workspace.
- Theorem `fresh_start_shared_dir`: two workspaces of one directory.
-/

namespace Ax.Workspaces

open Usage

variable {host : UsageHost} {home v w dirV dirW : String} {locate : String → List String}

/-- `codex_home_path`. -/
def codexHomePath (host : UsageHost) (home workspace dir : String) : String :=
  Path.join (codexHomesRoot home) (codexHomeKey host workspace dir)

/-- The directory that a launch removes before the runtime starts: `prepare_claude_launch` and
`prepare_codex_home_for_launch`. -/
def removedAtLaunch (host : UsageHost) (home : String) (runtime : Runtime) (fresh : Bool)
    (workspace dir : String) : Option String :=
  if !fresh then none
  else match runtime with
    | .claude => some (claudeProjectPath home dir)
    | .codex => some (codexHomePath host home workspace dir)

/-- The directories in which the runtimes keep the state of a workspace. -/
def stateDirs (host : UsageHost) (home workspace dir : String) : List String :=
  [claudeProjectPath home dir, codexHomePath host home workspace dir]

/-! ## Directories apart -/

/-- A reading of paths as locations in which relative paths without `..` lead below the directory
that they are joined to. -/
def Lexical (locate : String → List String) : Prop :=
  ∀ dir path, Path.Descends path → locate (Path.join dir path) = locate dir ++ Path.names path

lemma lexical_names : Lexical Path.names :=
  fun dir _ h => Path.names_join dir h.1

/-- No location is in both directories. -/
def Apart (locate : String → List String) (a b : String) : Prop :=
  ∀ location, locate a <+: location → ¬locate b <+: location

/-- A fresh start of `w` removes no state of `v`, whatever the runtime. -/
def Spares (host : UsageHost) (home : String) (locate : String → List String)
    (w dirW v dirV : String) : Prop :=
  ∀ runtime fresh, ∀ gone ∈ removedAtLaunch host home runtime fresh w dirW,
    ∀ state ∈ stateDirs host home v dirV, Apart locate state gone

lemma apart_iff {a b : String} :
    Apart locate a b ↔ ¬locate a <+: locate b ∧ ¬locate b <+: locate a := by
  constructor
  · exact fun h => ⟨fun hab => h _ hab List.prefix_rfl, fun hba => h _ List.prefix_rfl hba⟩
  · rintro ⟨hab, hba⟩ location ha hb
    rcases List.prefix_or_prefix_of_prefix ha hb with h | h
    · exact hab h
    · exact hba h

lemma apart_of_ne {a b : String} {front restA restB : List String} {x y : String} (hne : x ≠ y)
    (ha : locate a = front ++ x :: restA) (hb : locate b = front ++ y :: restB) :
    Apart locate a b := by
  rw [apart_iff, ha, hb]
  simp [List.prefix_append_right_inj, hne, hne.symm]

/-! ## Project directories -/

lemma normalizePath_ne_empty (dir : String) : normalizePath dir ≠ "" := by
  have hparts : ∀ absolute : Bool, ∀ part ∈ (Path.segments (Text.trim dir)).foldl
      (fun parts segment =>
        if segment = "" ∨ segment = "." then parts
        else if segment = ".." then
          if parts = [] ∧ !absolute then [".."] else parts.dropLast
        else parts ++ [segment]) ([] : List String), part ≠ "" := by
    intro absolute
    refine List.foldlRecOn (motive := fun parts : List String => ∀ part ∈ parts, part ≠ "")
      _ _ (by simp) fun parts hparts segment _ => ?_
    split_ifs with hfiller hup hroot
    · exact hparts
    · simp
    · exact fun part hmem => hparts part (List.mem_of_mem_dropLast hmem)
    · intro part hmem
      rcases List.mem_append.mp hmem with hmem | hmem
      · exact hparts part hmem
      · obtain rfl := List.mem_singleton.mp hmem
        exact fun hempty => hfiller (.inl hempty)
  unfold normalizePath
  extract_lets trimmed absolute parts
  have hall : ∀ part ∈ parts, part ≠ "" := hparts absolute
  clear_value parts absolute
  split_ifs with hnil
  · decide
  · decide
  · simp
  · obtain ⟨part, rest, rfl⟩ := List.exists_cons_of_ne_nil hnil
    have hpart : part ≠ "" := hall part List.mem_cons_self
    cases rest with
    | nil => simpa using hpart
    | cons next rest => simp [String.intercalate_cons_cons, hpart]

lemma plain_encodeProjectKey (dir : String) :
    Path.Descends (encodeProjectKey (normalizePath dir)) ∧
      Path.names (encodeProjectKey (normalizePath dir)) =
        [encodeProjectKey (normalizePath dir)] := by
  have hdot : '.' ∉ (encodeProjectKey (normalizePath dir)).toList := by
    rw [encodeProjectKey, String.toList_map, List.mem_map]
    rintro ⟨c, -, hc⟩
    split at hc
    · exact absurd hc (by decide)
    · next hnot => exact hnot (Or.inr hc)
  have hkey : encodeProjectKey (normalizePath dir) ≠ "" := by
    simpa [encodeProjectKey] using normalizePath_ne_empty dir
  have hslash := slash_notMem_encodeProjectKey (normalizePath dir)
  generalize encodeProjectKey (normalizePath dir) = key at hdot hkey hslash
  have hne : ∀ name : String, '.' ∈ name.toList → key ≠ name := fun name hmem heq =>
    hdot (heq ▸ hmem)
  refine ⟨Path.descends_of_notMem hslash (hne _ (by decide)), Path.names_of_notMem hslash ?_⟩
  simp [Path.isFiller, hkey, hne "." (by decide)]

lemma locate_claudeProjectPath (hlocate : Lexical locate) (home dir : String) :
    locate (claudeProjectPath home dir) =
      locate home ++ [".claude", "projects", encodeProjectKey (normalizePath dir)] := by
  obtain ⟨hdescends, hnames⟩ := plain_encodeProjectKey dir
  rw [claudeProjectPath, hlocate _ _ hdescends, hnames, hlocate _ "projects" (by decide),
    hlocate _ ".claude" (by decide), List.append_assoc, List.append_assoc]
  rfl

lemma apart_claudeProjectPath_iff (hlocate : Lexical locate) (home : String) :
    Apart locate (claudeProjectPath home dirV) (claudeProjectPath home dirW) ↔
      encodeProjectKey (normalizePath dirV) ≠ encodeProjectKey (normalizePath dirW) := by
  rw [apart_iff, locate_claudeProjectPath hlocate, locate_claudeProjectPath hlocate]
  simp only [List.prefix_append_right_inj]
  simp [eq_comm]

/-! ## Codex homes -/

lemma locate_codexHomePath (hlocate : Lexical locate)
    (h : Path.Descends (codexHomeKey host w dirW)) :
    locate (codexHomePath host home w dirW) =
      locate home ++ ".ax" :: "codex" :: Path.names (codexHomeKey host w dirW) := by
  rw [codexHomePath, codexHomesRoot, hlocate _ _ h, hlocate _ "codex" (by decide),
    hlocate _ ".ax" (by decide), List.append_assoc, List.append_assoc]
  rfl

lemma apart_claudeProjectPath_codexHomePath (hlocate : Lexical locate)
    (h : Path.Descends (codexHomeKey host w dirW)) :
    Apart locate (claudeProjectPath home dirV) (codexHomePath host home w dirW) :=
  apart_of_ne (by decide) (locate_claudeProjectPath hlocate home dirV)
    (locate_codexHomePath hlocate h)

lemma Apart.symm {a b : String} (h : Apart locate a b) : Apart locate b a :=
  fun location hb ha => h location ha hb

lemma plain_codexHomeKey (host : UsageHost) (dir : String) (hslash : '/' ∉ w.toList) :
    Path.Descends (codexHomeKey host w dir) ∧
      Path.names (codexHomeKey host w dir) = [codexHomeKey host w dir] := by
  have hkey : '/' ∉ (codexHomeKey host w dir).toList := slash_notMem_codexHomeKey hslash
  have hlength : 13 ≤ (codexHomeKey host w dir).length := by
    have hdash : "-".length = 1 := rfl
    simp only [codexHomeKey, String.length_append, hdash]
    simp
  generalize codexHomeKey host w dir = key at hkey hlength
  have hne : ∀ name : String, name.length < 13 → key ≠ name := by
    rintro name hshort rfl
    omega
  refine ⟨Path.descends_of_notMem hkey (hne _ (by decide)), Path.names_of_notMem hkey ?_⟩
  simp [Path.isFiller, hne "" (by decide), hne "." (by decide)]

lemma apart_codexHomePath_iff (hlocate : Lexical locate)
    (hv : Path.Descends (codexHomeKey host v dirV))
    (hw : Path.Descends (codexHomeKey host w dirW)) :
    Apart locate (codexHomePath host home v dirV) (codexHomePath host home w dirW) ↔
      ¬Path.names (codexHomeKey host v dirV) <+: Path.names (codexHomeKey host w dirW) ∧
        ¬Path.names (codexHomeKey host w dirW) <+: Path.names (codexHomeKey host v dirV) := by
  rw [apart_iff, locate_codexHomePath hlocate hv, locate_codexHomePath hlocate hw]
  simp [List.prefix_append_right_inj]

lemma spares_iff (hlocate : Lexical locate) :
    Spares host home locate w dirW v dirV ↔
      encodeProjectKey (normalizePath dirV) ≠ encodeProjectKey (normalizePath dirW) ∧
        Apart locate (codexHomePath host home v dirV) (codexHomePath host home w dirW) ∧
        Apart locate (claudeProjectPath home dirV) (codexHomePath host home w dirW) ∧
        Apart locate (codexHomePath host home v dirV) (claudeProjectPath home dirW) := by
  rw [← apart_claudeProjectPath_iff hlocate home]
  constructor
  · intro h
    have hclaude := h .claude true _ rfl
    have hcodex := h .codex true _ rfl
    exact ⟨hclaude _ (by simp [stateDirs]), hcodex _ (by simp [stateDirs]),
      hcodex _ (by simp [stateDirs]), hclaude _ (by simp [stateDirs])⟩
  · rintro ⟨hclaude, hcodex, hclaudeCodex, hcodexClaude⟩ runtime fresh gone hgone state hstate
    unfold removedAtLaunch at hgone
    split at hgone
    · cases hgone
    cases runtime with
    | claude =>
      cases hgone
      rcases List.mem_pair.mp hstate with rfl | rfl
      · exact hclaude
      · exact hcodexClaude
    | codex =>
      cases hgone
      rcases List.mem_pair.mp hstate with rfl | rfl
      · exact hclaudeCodex
      · exact hcodex

/-- A project `p` whose two workspaces are its directory. -/
def twoRoles : Config.FileSystem :=
  .ofEntries (some "/h") [Config.FileSystem.project "p"
    { Config.default with
      workspaces := ((∅ : BTreeMap String Config.Workspace).insert "docs"
        { Config.Workspace.default with dir := "." }).insert "qa"
          { Config.Workspace.default with dir := "." } } []]

end Ax.Workspaces
