import Ax.Workspace.Machine
import Ax.Workspace.Reconcile

/-!
# Where files are

Files of different agents can be the same file: a path is one way to a location.  A command
touches the locations that it writes or removes, and what is read at all other locations stays.

Main results:

- Theorems `Layout.spares_*`: commands on the files of one directory spare the files that ax
  keeps in another one.
- Theorem `Machine.keepsFiles_exec`: the backend in memory keeps its files.
-/

namespace Ax.Workspaces

def artifactNames : List String :=
  [McpConfig.file, Runtime.claude.instructionFile, Runtime.codex.instructionFile]

def managedNames : List String :=
  artifactNames ++ [".claude", RuntimeState.file]

lemma notMem_codexNames {name : String} (h : name ∈ artifactNames) :
    name ∉ ["auth.json", "config.toml"] := by
  revert name
  decide

structure Layout where
  locate : String → List String
  codexHome : String → String → List String
  locate_join : ∀ dir, ∀ name ∈ managedNames, locate (Path.join dir name) = locate dir ++ [name]
  codexHome_last : ∀ workspace dir parent, ∀ name ∈ managedNames,
    codexHome workspace dir ≠ parent ++ [name]

namespace Layout

variable (layout : Layout)

def Touches (c : Cmd) (location : List String) : Prop :=
  match c with
  | .writeJson path _ | .writeText path _ | .removeFile path => location = layout.locate path
  | .removeDirAll path => layout.locate path <+: location
  | .prepareCodexHome workspace dir _ _ _ =>
    ∃ name ∈ ["auth.json", "config.toml"], location = layout.codexHome workspace dir ++ [name]
  | .removeCodexHome workspace dir => layout.codexHome workspace dir <+: location
  | _ => False

/-- The command leaves alone what ax keeps for an agent in a directory. -/
def Spares (dir : String) (c : Cmd) : Prop :=
  ∀ path, IsArtifact dir path → ¬layout.Touches c (layout.locate path)

/-- Cleaning up after a workspace takes away what ax keeps in another directory. -/
def Clears (workspace dir other : String) : Prop :=
  Text.trim dir ≠ "" ∧ (layout.locate dir = layout.locate other ∨
    layout.codexHome workspace dir <+: layout.locate other)

/-- Cleaning up after an orchestrator takes away what ax keeps in another directory. -/
def OrchestratorClears (name dir other : String) : Prop :=
  (dir ≠ "" ∧ (layout.locate dir = layout.locate other ∨
    layout.locate dir ++ [".claude"] <+: layout.locate other)) ∨
    layout.codexHome name dir <+: layout.locate other

variable {layout}

lemma locate_artifact (layout : Layout) {dir path : String} (h : IsArtifact dir path) :
    ∃ name ∈ artifactNames, layout.locate path = layout.locate dir ++ [name] := by
  obtain rfl | ⟨runtime, rfl⟩ := h
  · exact ⟨McpConfig.file, by decide, layout.locate_join dir _ (by decide)⟩
  · refine ⟨runtime.instructionFile, ?_, layout.locate_join dir _ ?_⟩
    all_goals cases runtime <;> decide

lemma last_eq {parent parent' : List String} {name name' : String}
    (h : parent ++ [name] = parent' ++ [name']) : name = name' :=
  List.singleton_inj.mp (List.append_inj_right' h rfl)

lemma locate_mcpConfig (layout : Layout) (dir : String) :
    layout.locate (Path.join dir McpConfig.file) = layout.locate dir ++ [McpConfig.file] :=
  layout.locate_join dir _ (by decide)

/-- Commands on the files of an agent spare other directories. -/
theorem spares_of_file {dir other path : String} {c : Cmd}
    (hne : layout.locate dir ≠ layout.locate other) (hfile : c.file? = some path)
    (hpath : IsArtifact dir path) : layout.Spares other c := by
  intro path' hpath' htouches
  obtain ⟨name, -, hlocate⟩ := layout.locate_artifact hpath
  obtain ⟨name', -, hlocate'⟩ := layout.locate_artifact hpath'
  have heq : layout.locate path' = layout.locate path := by
    cases c <;> cases hfile
    all_goals first | exact htouches | cases htouches
  rw [hlocate, hlocate'] at heq
  exact hne (List.append_inj_left' heq rfl).symm

lemma spares_removeCodexHome {workspace dir other : String}
    (h : ¬layout.codexHome workspace dir <+: layout.locate other) :
    layout.Spares other (.removeCodexHome workspace dir) := by
  intro path hpath htouches
  obtain ⟨name, hname, hlocate⟩ := layout.locate_artifact hpath
  have hbelow : layout.codexHome workspace dir <+: layout.locate other ++ [name] :=
    hlocate ▸ htouches
  rcases List.prefix_concat_iff.mp hbelow with heq | hbelow
  · exact layout.codexHome_last _ _ _ name (List.mem_append_left _ hname) heq
  · exact h hbelow

lemma spares_prepareCodexHome {workspace dir socketPath axBin other : String}
    {configPath : Option String} :
    layout.Spares other (.prepareCodexHome workspace dir socketPath axBin configPath) := by
  -- codex writes two files in a home of its own
  rintro path hpath ⟨file, hfile, heq⟩
  obtain ⟨name, hname, hlocate⟩ := layout.locate_artifact hpath
  rw [hlocate] at heq
  obtain rfl := last_eq heq
  exact notMem_codexNames hname hfile

lemma spares_removeClaudeDir {dir other : String}
    (h : ¬layout.locate dir ++ [".claude"] <+: layout.locate other) :
    layout.Spares other (.removeDirAll (claudeDir dir)) := by
  intro path hpath htouches
  obtain ⟨name, hname, hlocate⟩ := layout.locate_artifact hpath
  have hbelow : layout.locate dir ++ [".claude"] <+: layout.locate other ++ [name] := by
    rw [← layout.locate_join dir ".claude" (by decide), ← hlocate]
    exact htouches
  rcases List.prefix_concat_iff.mp hbelow with heq | hbelow
  · obtain rfl := last_eq heq
    exact absurd hname (by decide)
  · exact h hbelow

end Layout

/-- What was to be removed is gone. -/
def Cmd.Removed : (c : Cmd) → c.Answer → Prop
  | .removeFile _, answer => orNotFound answer = .ok ()
  | .removeDirAll _, answer => orNotFound answer = .ok ()
  | .removeCodexHome .., answer => answer = .ok ()
  | _, _ => False

/-- Files are found at their locations: they are kept by commands that do not touch them, read
back when they were written, and gone when they were removed. -/
structure KeepsFiles {σ : Type} (exec : Exec σ) (layout : Layout) : Prop where
  readJson_kept : ∀ c s path, ¬layout.Touches c (layout.locate path) →
    (exec (.readJson path) (exec c s).2).1 = (exec (.readJson path) s).1
  readText_kept : ∀ c s path, ¬layout.Touches c (layout.locate path) →
    (exec (.readText path) (exec c s).2).1 = (exec (.readText path) s).1
  readJson_at : ∀ s path path', layout.locate path = layout.locate path' →
    (exec (.readJson path) s).1 = (exec (.readJson path') s).1
  removed : ∀ c s path, c.Removed (exec c s).1 → layout.Touches c (layout.locate path) →
    ∃ e, (exec (.readJson path) (exec c s).2).1 = .error e
  storesDocuments : StoresDocuments exec
  storesTexts : ∀ path text s, (exec (.writeText path text) s).1 = .ok () →
    (exec (.readText path) (exec (.writeText path text) s).2).1 = .ok text

/-! ## The backend in memory -/

namespace Machine

/-- What ax keeps in a directory is found below it. -/
theorem locate_join (dir name : String) (h : name ∈ managedNames) :
    locate (Path.join dir name) = locate dir ++ [name] := by
  have hname : Path.isAbsolute name = false ∧ Path.names name = [name] := by
    revert name
    decide
  exact (Path.names_join dir hname.1).trans (congrArg (locate dir ++ ·) hname.2)

def layout : Layout where
  locate := locate
  codexHome workspace _ := codexHome workspace
  locate_join := locate_join
  codexHome_last := by
    intro workspace dir parent name hname heq
    have hlast : name = workspace ++ "-" := by
      have := congrArg List.getLast? heq
      simpa [codexHome] using this.symm
    have hdash : name.toList.getLast? ≠ some '-' := by
      clear heq hlast
      revert name
      decide
    exact hdash (by simp [hlast])

/-- The backend in memory keeps its files. -/
theorem keepsFiles_exec : KeepsFiles exec layout where
  readJson_kept c m path h := by
    cases c with
    | writeJson p document => exact congrArg (Option.elim · _ _) (if_neg h)
    | removeFile p => exact congrArg (Option.elim · _ _) (if_neg h)
    | removeDirAll p => exact congrArg (Option.elim · _ _) (if_neg h)
    | removeCodexHome w dir => exact congrArg (Option.elim · _ _) (if_neg h)
    | createSession w dir launch env => simp only [exec]; split <;> rfl
    | destroySession w => simp only [exec]; split <;> rfl
    | wakeWorkspace w prompt => simp only [exec]; split <;> rfl
    | _ => rfl
  readText_kept c m path h := by
    cases c with
    | writeText p text => exact congrArg (Option.elim · _ _) (if_neg h)
    | removeFile p => exact congrArg (Option.elim · _ _) (if_neg h)
    | removeDirAll p => exact congrArg (Option.elim · _ _) (if_neg h)
    | removeCodexHome w dir => exact congrArg (Option.elim · _ _) (if_neg h)
    | createSession w dir launch env => simp only [exec]; split <;> rfl
    | destroySession w => simp only [exec]; split <;> rfl
    | wakeWorkspace w prompt => simp only [exec]; split <;> rfl
    | _ => rfl
  readJson_at m path path' h := congrArg (Option.elim · _ _) (congrArg m.document h)
  removed c m path hremoved htouches := by
    refine ⟨notFound, ?_⟩
    cases c with
    | removeFile p => exact congrArg (Option.elim · _ _) (if_pos htouches)
    | removeDirAll p => exact congrArg (Option.elim · _ _) (if_pos htouches)
    | removeCodexHome w dir => exact congrArg (Option.elim · _ _) (if_pos htouches)
    | _ => cases hremoved
  storesDocuments := storesDocuments_exec
  storesTexts path text m h := by
    simp only [exec, put, if_pos]
    rfl

end Machine

end Ax.Workspaces
