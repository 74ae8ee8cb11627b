import Ax.Workspace.Commands

/-!
# Files that an agent is given

The directory of an agent has a file `.mcp.json` that names its server, and an instruction
file with a section between two markers.  Both are shared with the user: other servers and
the text around the section stay.

Main results:

- Theorems `uses_writeMcpConfig` and the like: what these programs do leaves sessions alone.
-/

namespace Ax.Workspaces

open Prog (ask raise)
open Fallible

/-! ## Runtimes -/

inductive Runtime
  | claude
  | codex
deriving DecidableEq, Repr

namespace Runtime

/-- `Runtime::as_str`. -/
def asStr : Runtime → String
  | .claude => "claude"
  | .codex => "codex"

/-- `Runtime::normalize`. -/
def normalize (name : String) : Option Runtime :=
  let known := Text.toAsciiLowercase (Text.trim name)
  if known = "" ∨ known = "claude" then some .claude
  else if known = "codex" then some .codex
  else none

/-- `Runtime::instruction_file`. -/
def instructionFile : Runtime → String
  | .claude => "CLAUDE.md"
  | .codex => "AGENTS.md"

/-- `SUPPORTED_RUNTIMES`. -/
def supported : List Runtime :=
  [.claude, .codex]

@[simp]
lemma normalize_asStr (runtime : Runtime) : normalize runtime.asStr = some runtime := by
  cases runtime <;> decide

end Runtime

/-! ## `.mcp.json` -/

inductive McpConfigError
  | read (path : String) (source : Config.IoError)
  | write (path : String) (source : Config.IoError)
deriving DecidableEq, Repr

structure McpServerEntry where
  command : String
  args : List String
deriving DecidableEq, Repr

structure McpConfig where
  mcpServers : BTreeMap String McpServerEntry
deriving DecidableEq

namespace McpConfig

/-- `MCP_CONFIG_FILE`. -/
def file : String :=
  ".mcp.json"

/-- `AX_SERVER_KEY`. -/
def axServerKey : String :=
  "ax"

def entryCodec : Codec McpServerEntry :=
  (Record.start McpServerEntry.mk
    |>.field (.required "command" .string) McpServerEntry.command
    |>.field (.required "args" (.list .string)) McpServerEntry.args).codec
      (fun _ => rfl) (by simp)

def codec : Codec McpConfig :=
  (Record.start McpConfig.mk
    |>.field (.required "mcpServers" (.mapping entryCodec)) McpConfig.mcpServers).codec
      (fun _ => rfl) (by simp)

def empty : McpConfig where
  mcpServers := ∅

def axEntry (workspace socketPath : String) (configPath : Option String) (axBin : String) :
    McpServerEntry where
  command := axBin
  args := ["mcp-server", "--workspace", workspace, "--socket", socketPath] ++
    match configPath with
    | none => []
    | some path => if path = "" then [] else ["--config", path]

/-- The file to write to: one that does not parse is started anew. -/
def ofRead (path : String) : Except Config.IoError (Except String Json) →
    Except McpConfigError McpConfig
  | .ok document => .ok ((document >>= codec.decode).toOption.getD empty)
  | .error e => if e.kind = .notFound then .ok empty else .error (.read path e)

end McpConfig

/-- `write_mcp_config`. -/
def writeMcpConfig (dir workspace socketPath : String) (configPath : Option String)
    (axBin : String) : Action McpConfigError Unit := do
  let path := Path.join dir McpConfig.file
  let document ← ask (Cmd.readJson path)
  let cfg ← raise id (McpConfig.ofRead path document)
  let servers := cfg.mcpServers.insert McpConfig.axServerKey
    (McpConfig.axEntry workspace socketPath configPath axBin)
  let written ← ask (Cmd.writeJson path (McpConfig.codec.encode ⟨servers⟩))
  raise (.write path) written

/-- A file is gone afterwards, also if it was not there. -/
def orNotFound : Except Config.IoError Unit → Except Config.IoError Unit
  | .ok () => .ok ()
  | .error e => if e.kind = .notFound then .ok () else .error e

/-- What this does is done to the file. -/
theorem uses_writeMcpConfig (dir workspace socketPath : String) (configPath : Option String)
    (axBin : String) :
    Uses (fun c => c.file? = some (Path.join dir McpConfig.file))
      (writeMcpConfig dir workspace socketPath configPath axBin) :=
  uses_bind (uses_ask rfl) fun _ => uses_bind (uses_raise _ _) fun _ =>
    uses_bind (uses_ask rfl) fun _ => uses_raise _ _

def McpConfig.toClean (path : String) : Except Config.IoError (Except String Json) →
    Except McpConfigError (Option McpConfig)
  | .ok document => .ok (document >>= McpConfig.codec.decode).toOption
  | .error e => if e.kind = .notFound then .ok none else .error (.read path e)

/-- `remove_mcp_config`. -/
def removeMcpConfig (dir : String) : Action McpConfigError Unit := do
  let path := Path.join dir McpConfig.file
  let document ← ask (Cmd.readJson path)
  let found ← raise id (McpConfig.toClean path document)
  match found with
  | none => pure ()
  | some cfg =>
    let servers := cfg.mcpServers.erase McpConfig.axServerKey
    if servers.isEmpty then do
      let removed ← ask (Cmd.removeFile path)
      raise (.write path) (orNotFound removed)
    else do
      let written ← ask (Cmd.writeJson path (McpConfig.codec.encode ⟨servers⟩))
      raise (.write path) written

lemma uses_removeMcpConfig (dir : String) :
    Uses (fun c => c.file? = some (Path.join dir McpConfig.file)) (removeMcpConfig dir) := by
  refine uses_bind (uses_ask rfl) fun _ => uses_bind (uses_raise _ _) fun found => ?_
  cases found with
  | none => exact uses_pure _
  | some cfg =>
    dsimp only
    split
    · exact uses_bind (uses_ask rfl) fun _ => uses_raise _ _
    · exact uses_bind (uses_ask rfl) fun _ => uses_raise _ _

/-! ## Instruction files -/

inductive InstructionsError
  | unknownRuntime (runtime : String)
  | read (path : String) (source : Config.IoError)
  | write (path : String) (source : Config.IoError)
deriving DecidableEq, Repr

namespace Instructions

/-- `AX_MARKER_START`. -/
def markerStart : String :=
  "<!-- ax:instructions:start -->"

/-- `AX_MARKER_END`. -/
def markerEnd : String :=
  "<!-- ax:instructions:end -->"

def splitFirst (pattern : List Char) : List Char → Option (List Char × List Char)
  | [] => if pattern = [] then some ([], []) else none
  | c :: cs =>
    if pattern.isPrefixOf (c :: cs) then some ([], (c :: cs).drop pattern.length)
    else (splitFirst pattern cs).map fun parts => (c :: parts.1, parts.2)

def around (content : String) : Option (List Char × List Char) :=
  match splitFirst markerStart.toList content.toList,
      splitFirst markerEnd.toList content.toList with
  | some (before, _), some (_, after) => some (before, after)
  | _, _ => none

/-- Line ends, which are trimmed around the section. -/
def isNewline (c : Char) : Bool :=
  c = '\n'

/-- `splice_managed_section`. -/
def spliceManagedSection (existing axSection : String) : String :=
  match around existing with
  | some (before, after) => String.ofList before ++ axSection ++ String.ofList after
  | none => String.ofList (existing.toList.rdropWhile isNewline) ++ "\n\n" ++ axSection ++ "\n"

def withoutSection (before after : List Char) : Option String :=
  let before := before.rdropWhile isNewline
  let after := after.dropWhile isNewline
  if before = [] ∧ after = [] then none
  else
    some (String.ofList (before ++
      (if after = [] then [] else (if before = [] then [] else ['\n', '\n']) ++ after) ++ ['\n']))

structure Texts where
  contracts : List String
  orchestratorPrompt : Config.ProjectNode → String → String → List Memory → String

/-- `managed_workspace_instructions`. -/
def managedWorkspaceInstructions (texts : Texts) (custom : String) : String :=
  let trimmed := Text.trim custom
  "\n\n".intercalate ((if trimmed = "" then [] else [trimmed]) ++ texts.contracts)

def axSection (texts : Texts) (workspace custom : String) : String :=
  markerStart ++ "\n## ax workspace: " ++ workspace ++ "\n\n" ++
    managedWorkspaceInstructions texts custom ++ "\n" ++ markerEnd

def contentOf (target axSection : String) : Except Config.IoError String →
    Except InstructionsError String
  | .ok existing => .ok (spliceManagedSection existing axSection)
  | .error e => if e.kind = .notFound then .ok (axSection ++ "\n") else .error (.read target e)

def toStrip (path : String) : Except Config.IoError String →
    Except InstructionsError (Option String)
  | .ok content => .ok (some content)
  | .error e => if e.kind = .notFound then .ok none else .error (.read path e)

end Instructions

open Instructions in
/-- `strip_managed_section`. -/
def stripManagedSection (path : String) : Action InstructionsError Unit := do
  let text ← ask (Cmd.readText path)
  let content ← raise id (toStrip path text)
  match content.bind around with
  | none => pure ()
  | some (before, after) =>
    match withoutSection before after with
    | none => do
        let removed ← ask (Cmd.removeFile path)
        raise (.write path) (orNotFound removed)
    | some out => do
        let written ← ask (Cmd.writeText path out)
        raise (.write path) written

lemma uses_stripManagedSection (path : String) :
    Uses (fun c => c.file? = some path) (stripManagedSection path) := by
  refine uses_bind (uses_ask rfl) fun _ => uses_bind (uses_raise _ _) fun content => ?_
  split
  · exact uses_pure _
  · split
    · exact uses_bind (uses_ask rfl) fun _ => uses_raise _ _
    · exact uses_bind (uses_ask rfl) fun _ => uses_raise _ _

open Instructions in
/-- `write_instructions`. -/
def writeInstructions (texts : Texts) (dir workspace runtime custom : String) :
    Action InstructionsError Unit := do
  let runtimeEnum ←
    raise id ((Runtime.normalize runtime).elim (.error (.unknownRuntime runtime)) .ok)
  let target := Path.join dir runtimeEnum.instructionFile
  let _ ← Fallible.traverse
    (fun other => stripManagedSection (Path.join dir other.instructionFile))
    (Runtime.supported.filter (· ≠ runtimeEnum))
  let existing ← ask (Cmd.readText target)
  let content ← raise id (contentOf target (axSection texts workspace custom) existing)
  let written ← ask (Cmd.writeText target content)
  raise (.write target) written

def IsInstructionFile (dir path : String) : Prop :=
  ∃ runtime : Runtime, path = Path.join dir runtime.instructionFile

lemma uses_writeInstructions (texts : Instructions.Texts)
    (dir workspace runtime custom : String) :
    Uses (fun c => ∃ path, c.file? = some path ∧ IsInstructionFile dir path)
      (writeInstructions texts dir workspace runtime custom) := by
  refine uses_bind (uses_raise _ _) fun runtimeEnum => ?_
  refine uses_bind (uses_traverse fun other _ => ?_) fun _ => ?_
  · exact (uses_stripManagedSection _).mono fun c hc => ⟨_, hc, other, rfl⟩
  · refine uses_bind (uses_ask ⟨_, rfl, runtimeEnum, rfl⟩) fun _ => ?_
    refine uses_bind (uses_raise _ _) fun _ => ?_
    exact uses_bind (uses_ask ⟨_, rfl, runtimeEnum, rfl⟩) fun _ => uses_raise _ _

/-- `remove_instructions`. -/
def removeInstructions (dir : String) : Action InstructionsError Unit := do
  let _ ← Fallible.traverse
    (fun runtime => stripManagedSection (Path.join dir runtime.instructionFile))
    Runtime.supported
  pure ()

lemma uses_removeInstructions (dir : String) :
    Uses (fun c => ∃ path, c.file? = some path ∧ IsInstructionFile dir path)
      (removeInstructions dir) := by
  refine uses_bind (uses_traverse fun runtime _ => ?_) fun _ => uses_pure _
  exact (uses_stripManagedSection _).mono fun c hc => ⟨_, hc, runtime, rfl⟩

end Ax.Workspaces
