import Ax.Workspace.Commands

/-!
# Sessions and files in memory

A backend that keeps its sessions in a table and its files under their locations.  It is the
reference for what the rest of the development assumes of a backend: it meets all of these
assumptions, and programs can be run on it.

Main results:

- Theorem `consistent_exec`: the sessions of this backend are consistent.
- Theorem `storesDocuments_exec`: documents are read back.
-/

namespace Ax.Workspaces

structure Machine where
  sessions : BTreeMap String Flags
  document : List String → Option Json
  text : List String → Option String
  config : Except String Config
  tree : Except String Config.ProjectNode

namespace Machine

def idleSince (sessions : BTreeMap String Flags) : Machine where
  sessions := sessions
  document _ := none
  text _ := none
  config := .ok Config.default
  tree := .error "no tree"

def locate : String → List String :=
  Path.names

def put {α : Type} (files : List String → Option α) (location : List String) (file : Option α) :
    List String → Option α :=
  fun other => if other = location then file else files other

def prune {α : Type} (files : List String → Option α) (location : List String) :
    List String → Option α :=
  fun other => if location <+: other then none else files other

def codexHome (workspace : String) : List String :=
  ["home", "ax", ".ax", "codex", workspace ++ "-"]

/-- Reading what is not there. -/
def notFound : Config.IoError where
  kind := .notFound
  message := "No such file or directory (os error 2)"

def exec : Exec Machine
  | .sessionExists w, m => (m.sessions[w]?.isSome, m)
  | .listSessions, m =>
    (.ok (m.sessions.toList.map fun entry =>
      ⟨Tmux.sessionName entry.1, entry.1, entry.2.attached, 1⟩), m)
  | .isIdle w, m => (m.sessions[w]?.any Flags.idle, m)
  | .createSession w .., m =>
    if m.sessions[w]?.isSome then
      (.error (.command "new-session" ("duplicate session: " ++ Tmux.sessionName w)), m)
    else (.ok (), { m with sessions := m.sessions.insert w ⟨false, true⟩ })
  | .destroySession w, m =>
    if m.sessions[w]?.isSome then (.ok (), { m with sessions := m.sessions.erase w })
    else
      (.error (.command "kill-session" ("can't find session: " ++ Tmux.sessionName w)), m)
  | .wakeWorkspace w _, m =>
    if m.sessions[w]?.isSome then (.ok (), m)
    else
      (.error (.command "wake workspace (clear)"
        ("can't find pane: " ++ Tmux.sessionName w)), m)
  | .readyPolls, m => ((1 : Nat), m)
  | .readJson path, m => ((m.document (locate path)).elim (.error notFound) fun j => .ok (.ok j), m)
  | .writeJson path j, m => (.ok (), { m with document := put m.document (locate path) (some j) })
  | .readText path, m => ((m.text (locate path)).elim (.error notFound) .ok, m)
  | .writeText path text, m => (.ok (), { m with text := put m.text (locate path) (some text) })
  | .createDirAll _, m => (.ok (), m)
  | .removeFile path, m =>
    (.ok (), { m with
      document := put m.document (locate path) none
      text := put m.text (locate path) none })
  | .removeDirAll path, m =>
    (.ok (), { m with
      document := prune m.document (locate path)
      text := prune m.text (locate path) })
  | .readDir _, m => (.ok 1, m)
  | .removeDir _, m => (.ok (), m)
  | .prepareCodexHome .., m => (.ok (), m)
  | .removeCodexHome workspace _, m =>
    (.ok (), { m with
      document := prune m.document (codexHome workspace)
      text := prune m.text (codexHome workspace) })
  | .promptMemories .., m => ([], m)
  | .loadConfig _, m => (m.config, m)
  | .loadTree _, m => (m.tree, m)

/-- A document that was written is read back. -/
theorem storesDocuments_exec : StoresDocuments exec := by
  intro path document m _
  simp only [exec, put, if_pos]
  rfl

lemma sessions_createSession (m : Machine) (w dir : String) (launch : Launch)
    (env : BTreeMap String String) :
    (exec (.createSession w dir launch env) m).2.sessions =
      if m.sessions[w]?.isSome then m.sessions else m.sessions.insert w ⟨false, true⟩ := by
  simp only [exec]
  split <;> rfl

lemma sessions_destroySession (m : Machine) (w : String) :
    (exec (.destroySession w) m).2.sessions = m.sessions.erase w := by
  simp only [exec]
  split
  · rfl
  · rename_i hnone
    refine BTreeMap.ext_get? fun k => ?_
    rw [BTreeMap.get?_erase]
    split
    · subst k
      exact Option.not_isSome_iff_eq_none.mp hnone
    · rfl

lemma sessions_wakeWorkspace (m : Machine) (w prompt : String) :
    (exec (.wakeWorkspace w prompt) m).2.sessions = m.sessions := by
  simp only [exec]
  split <;> rfl

lemma sessions_of_quiet (m : Machine) {c : Cmd} (hc : c.Quiet) :
    (exec c m).2.sessions = m.sessions := by
  cases c <;> first | rfl | cases hc

/-- The sessions of this backend are consistent. -/
theorem consistent_exec : Consistent exec sessions where
  listSessions m infos h := by
    obtain rfl := Except.ok.inj h
    rw [List.map_map]
    rfl
  sessionExists w m := rfl
  isIdle w m flags h := by
    simp only [exec, h]
    rfl
  elsewhere c m w h := by
    rcases hsession : c.session? with _ | name
    · rw [sessions_of_quiet m hsession]
    · have hne : w ≠ name := fun heq => h (heq ▸ hsession)
      cases c with
      | createSession name dir launch env =>
        obtain rfl := Option.some.inj hsession
        rw [sessions_createSession]
        split
        · rfl
        · rw [BTreeMap.get?_insert, if_neg hne]
      | destroySession name =>
        obtain rfl := Option.some.inj hsession
        rw [sessions_destroySession, BTreeMap.get?_erase, if_neg hne]
      | wakeWorkspace name prompt => rw [sessions_wakeWorkspace]
      | _ => cases hsession
  kept w dir launch env m flags h := by
    rw [sessions_createSession, h, Option.isSome_some, if_pos rfl, h]
  created w dir launch env m h := by
    rw [sessions_createSession]
    split
    · assumption
    · rw [BTreeMap.get?_insert_self]
      rfl
  destroyed w m h := by
    rw [sessions_destroySession, BTreeMap.get?_erase, if_pos rfl]
  notRevived w m h := by
    rw [sessions_destroySession, BTreeMap.get?_erase, if_pos rfl]
  woken w prompt m := by
    rw [sessions_wakeWorkspace]

end Machine
end Ax.Workspaces
