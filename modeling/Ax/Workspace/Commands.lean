import Ax.Config.Local
import Ax.Foundation.Fallible
import Ax.Proto.Types
import Ax.Tmux.Sessions

/-!
# What workspace management asks of its surroundings

Starting, stopping and reconciling agents is a program over the operations of the tmux backend
and of the file system.  Each operation is a command here; a run of the program is an execution
against any state in which commands are answered and take effect.

Main results:

- Structures `Agrees` and `Consistent`: a backend whose answers agree with one table of live
  sessions, which changes by the commands that start and stop sessions only.
-/

namespace Ax.Workspaces

/-- What runs in a new session: `create_session`, `create_session_with_command` and
`create_session_with_args`. -/
inductive Launch
  | shell (shell : String)
  | command (command : String)
  | args (argv : List String)
deriving DecidableEq, Repr

/-- The operations of `TmuxBackend` and `DispatchBackend`, of the clock and of the file
system. -/
inductive Cmd
  | sessionExists (workspace : String)
  | listSessions
  | isIdle (workspace : String)
  | createSession (workspace dir : String) (launch : Launch) (env : BTreeMap String String)
  | destroySession (workspace : String)
  | wakeWorkspace (workspace prompt : String)
  /-- How often a waiting dispatch looks at its target before the deadline. -/
  | readyPolls
  | readJson (path : String)
  | writeJson (path : String) (document : Json)
  | readText (path : String)
  | writeText (path text : String)
  | createDirAll (path : String)
  | removeFile (path : String)
  | removeDirAll (path : String)
  | readDir (path : String)
  | removeDir (path : String)
  | prepareCodexHome (workspace dir socketPath axBin : String) (configPath : Option String)
  | removeCodexHome (workspace dir : String)
  | promptMemories (prefix_ socketPath : String)
  | loadConfig (path : String)
  | loadTree (path : String)

def Cmd.Answer : Cmd → Type
  | .sessionExists _ | .isIdle _ => Bool
  | .listSessions => Except Tmux.TmuxError (List Tmux.SessionInfo)
  | .createSession .. | .destroySession _ | .wakeWorkspace .. => Except Tmux.TmuxError Unit
  | .readyPolls => Nat
  | .readJson _ => Except Config.IoError (Except String Json)
  | .readText _ => Except Config.IoError String
  | .readDir _ => Except Config.IoError Nat
  | .writeJson .. | .writeText .. | .createDirAll _ | .removeFile _ | .removeDirAll _
  | .removeDir _ => Except Config.IoError Unit
  | .prepareCodexHome .. | .removeCodexHome .. => Except String Unit
  | .promptMemories .. => List Memory
  | .loadConfig _ => Except String Config
  | .loadTree _ => Except String Config.ProjectNode

/-- Programs over these commands. -/
abbrev Action (ε : Type) : Type → Type :=
  Fallible Cmd.Answer ε

abbrev Exec (σ : Type) : Type :=
  (c : Cmd) → σ → c.Answer × σ

/-! ## Live sessions -/

/-- What is known about a live session. -/
structure Flags where
  attached : Bool
  idle : Bool
deriving DecidableEq, Repr

namespace Cmd

def session? : Cmd → Option String
  | .createSession w .. | .destroySession w | .wakeWorkspace w _ => some w
  | _ => none

def creates? : Cmd → Option String
  | .createSession w .. => some w
  | _ => none

lemma eq_of_creates? {c : Cmd} {w : String} (h : c.creates? = some w) :
    ∃ dir launch env, c = .createSession w dir launch env := by
  cases c <;> first | (obtain rfl := Option.some.inj h; exact ⟨_, _, _, rfl⟩) | cases h

def destroys? : Cmd → Option String
  | .destroySession w => some w
  | _ => none

def target? : Cmd → Option String
  | .sessionExists w | .isIdle w | .createSession w .. | .destroySession w
  | .wakeWorkspace w _ => some w
  | _ => none

def file? : Cmd → Option String
  | .readJson path | .writeJson path _ | .readText path | .writeText path _
  | .removeFile path => some path
  | _ => none

def Quiet (c : Cmd) : Prop :=
  c.session? = none

lemma quiet_of_target? {c : Cmd} (h : c.target? = none) : c.Quiet := by
  cases c <;> first | rfl | cases h

lemma target?_of_file? {c : Cmd} {path : String} (h : c.file? = some path) :
    c.target? = none := by
  cases c <;> first | rfl | cases h

end Cmd

/-- A backend whose answers agree with one table of live sessions.  Only the commands that
start, stop and wake a session change the table, each at its own workspace, and a session that
is live is not started again. -/
structure Agrees {σ : Type} (exec : Exec σ) (live : σ → BTreeMap String Flags) : Prop where
  listSessions : ∀ s infos, (exec .listSessions s).1 = .ok infos →
    (infos.map fun i => (i.workspace, i.attached)).Perm
      ((live s).toList.map fun entry => (entry.1, entry.2.attached))
  sessionExists : ∀ w s, (exec (.sessionExists w) s).1 = (live s)[w]?.isSome
  isIdle : ∀ w s flags, (live s)[w]? = some flags → (exec (.isIdle w) s).1 = flags.idle
  elsewhere : ∀ c s w, c.session? ≠ some w → (live (exec c s).2)[w]? = (live s)[w]?
  kept : ∀ w dir launch env s flags, (live s)[w]? = some flags →
    (live (exec (.createSession w dir launch env) s).2)[w]? = some flags

/-- A backend that also does what it says: a session that was started is live, one that was
stopped is not, and only starting a session makes it live. -/
structure Consistent {σ : Type} (exec : Exec σ) (live : σ → BTreeMap String Flags) : Prop
    extends Agrees exec live where
  created : ∀ w dir launch env s, (exec (.createSession w dir launch env) s).1 = .ok () →
    (live (exec (.createSession w dir launch env) s).2)[w]?.isSome
  destroyed : ∀ w s, (exec (.destroySession w) s).1 = .ok () →
    (live (exec (.destroySession w) s).2)[w]? = none
  notRevived : ∀ w s, (live s)[w]? = none → (live (exec (.destroySession w) s).2)[w]? = none
  woken : ∀ w prompt s, (live (exec (.wakeWorkspace w prompt) s).2)[w]?.isSome =
    (live s)[w]?.isSome

def StoresDocuments {σ : Type} (exec : Exec σ) : Prop :=
  ∀ path document s, (exec (.writeJson path document) s).1 = .ok () →
    (exec (.readJson path) (exec (.writeJson path document) s).2).1 = .ok (.ok document)

namespace Agrees

variable {σ : Type} {exec : Exec σ} {live : σ → BTreeMap String Flags}

lemma quiet (h : Agrees exec live) {c : Cmd} (hc : c.Quiet) (s : σ) :
    live (exec c s).2 = live s := by
  refine BTreeMap.ext_get? fun w => h.elsewhere c s w ?_
  rw [hc]
  exact Option.some_ne_none w ∘ Eq.symm

lemma mem_of_listSessions (h : Agrees exec live) {s : σ} {infos : List Tmux.SessionInfo}
    (hlist : (exec .listSessions s).1 = .ok infos) {w : String} {attached : Bool} :
    (∃ i ∈ infos, i.workspace = w ∧ i.attached = attached) ↔
      ∃ flags, (live s)[w]? = some flags ∧ flags.attached = attached := by
  have hperm := (h.listSessions s infos hlist).mem_iff (a := (w, attached))
  simpa [Std.ExtTreeMap.mem_toList_iff_getElem?_eq_some] using hperm

end Agrees

end Ax.Workspaces
