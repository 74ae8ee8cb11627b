import Ax.Workspace.DesiredState

/-!
# Session names of a configuration

A session is found again by its name: the workspace is read from it.  Validation admits any
names, so whether this works depends on the names that a configuration uses.

Main results:

- Theorem `session_names_identify_iff`: for which names sessions are found again.
- Theorem `session_names_collide`: an accepted configuration with two workspaces for one session.
-/

namespace Ax.Workspaces

open Tmux

def DesiredState.HasName (desired : DesiredState) (name : String) : Prop :=
  name ∈ desired.workspaces ∨ name ∈ desired.orchestrators

structure Identifies (names : String → Prop) : Prop where
  distinct : ∀ a b, names a → names b → a ≠ b → sessionName a ≠ sessionName b
  decoded : ∀ a, names a → decodeWorkspaceName (encodeWorkspaceName a) = a
  recognised : ∀ a, names a → ∀ ss : List LiveSession, ∀ s ∈ ss, s.name = sessionName a →
    ∃ infos, parseListSessionsStdout (LiveSession.listing ss) = .ok infos ∧
      ∃ i ∈ infos, i.name = s.name ∧ i.workspace = a

def Readable (name : String) : Prop :=
  '_' ∉ name.toList ∧ ('\n' ∈ name.toList ∨ ∀ c ∈ name.toList, Text.isWhitespace c = false)

lemma toList_sessionName (name : String) :
    (sessionName name).toList =
      ['a', 'x', '-'] ++ name.toList.map fun c => if c = '.' then '_' else c := by
  rw [sessionName, String.toList_append, encodeWorkspaceName, replaceChar, String.toList_ofList]
  rfl

lemma isWhitespace_sessionName_iff (name : String) :
    (∀ c ∈ (sessionName name).toList, Text.isWhitespace c = false) ↔
      ∀ c ∈ name.toList, Text.isWhitespace c = false := by
  have hchar : ∀ c, Text.isWhitespace (if c = '.' then '_' else c) = Text.isWhitespace c := by
    intro c
    split
    · rename_i hdot
      rw [hdot]
      decide
    · rfl
  have hstart : ∀ c ∈ ['a', 'x', '-'], Text.isWhitespace c = false := by
    simp [Text.isWhitespace]
  rw [toList_sessionName, List.forall_mem_append, and_iff_right hstart, List.forall_mem_map]
  simp only [hchar]

lemma exists_info {name : String} (hname : ∀ c ∈ name.toList, Text.isWhitespace c = false)
    (hunder : '_' ∉ name.toList) {ss : List LiveSession} {s : LiveSession} (hs : s ∈ ss)
    (hsession : s.name = sessionName name) :
    ∃ infos, parseListSessionsStdout (LiveSession.listing ss) = .ok infos ∧
      ∃ i ∈ infos, i.name = s.name ∧ i.workspace = name := by
  have hwords : Text.words s.name = [s.name] := by
    rw [s.words_name_eq_iff, hsession]
    exact (isWhitespace_sessionName_iff name).mpr hname
  have hline := s.parseLine_line
  have hstrip : Text.stripStart sessionStart s.name = some (encodeWorkspaceName name) := by
    rw [hsession]
    exact Text.stripStart_append _ _
  rw [hwords] at hline
  simp only [hstrip, Option.map_some, decode_encode_iff.mpr hunder] at hline
  exact ⟨_, LiveSession.parse_listing ss, _, List.mem_filterMap.mpr ⟨s, hs, hline⟩, rfl, rfl⟩

lemma isWhitespace_of_info {s : LiveSession} {infos : List SessionInfo} {i : SessionInfo}
    (hparse : parseListSessionsStdout (LiveSession.listing [s]) = .ok infos) (hi : i ∈ infos)
    (hname : i.name = s.name) : ∀ c ∈ s.name.toList, Text.isWhitespace c = false := by
  rw [LiveSession.parse_listing] at hparse
  obtain rfl := Except.ok.inj hparse
  obtain ⟨s', -, hline⟩ := List.mem_filterMap.mp hi
  rw [← hname]
  exact LiveSession.isWhitespace_of_parseLine hline

lemma identifies_iff {names : String → Prop} :
    Identifies names ↔ ∀ name, names name → Readable name := by
  constructor
  · intro h name hname
    refine ⟨decode_encode_iff.mp (h.decoded name hname), ?_⟩
    by_cases hline : '\n' ∈ name.toList
    · exact .inl hline
    · right
      have hsession : '\n' ∉ (sessionName name).toList := by
        rw [toList_sessionName, List.mem_append, List.mem_map]
        rintro (hstart | ⟨c, hc, heq⟩)
        · exact absurd hstart (by decide)
        · split at heq
          · cases heq
          · exact hline (heq ▸ hc)
      have hne : sessionName name ≠ "" := by
        intro hnil
        have hlength := length_sessionName name
        rw [hnil] at hlength
        cases hlength
      let s : LiveSession := ⟨sessionName name, 0, 1, hne, hsession, le_rfl⟩
      obtain ⟨infos, hparse, i, hi, hi', -⟩ :=
        h.recognised name hname [s] s (List.mem_singleton_self s) rfl
      exact (isWhitespace_sessionName_iff name).mp (isWhitespace_of_info hparse hi hi')
  · intro h
    refine ⟨fun a b ha hb hne heq => ?_, fun a ha => ?_, fun a ha ss s hs hsession => ?_⟩
    · exact hne (sessionName_injOn (h a ha).1 (h b hb).1 heq)
    · exact decode_encode_iff.mpr (h a ha).1
    · obtain ⟨hunder, hline | hname⟩ := h a ha
      · refine absurd ?_ s.name_line
        rw [hsession, toList_sessionName, List.mem_append, List.mem_map]
        exact .inr ⟨'\n', hline, by decide⟩
      · exact exists_info hname hunder hs hsession

/-- The sessions of a desired state identify its workspaces and orchestrators exactly if all of
their names are readable. -/
theorem session_names_identify_iff (desired : DesiredState) :
    Identifies desired.HasName ↔ ∀ name, desired.HasName name → Readable name :=
  identifies_iff

def dottedNames : Config.FileSystem :=
  .ofEntries (some "/home/ax") [Config.FileSystem.project "p"
    { Config.default with
      workspaces := ((∅ : BTreeMap String Config.Workspace).insert "a.b"
        { Config.Workspace.default with dir := "." }).insert "a_b"
        { Config.Workspace.default with dir := "." } } []]

/-- This project is accepted, and both of its workspaces have one session, which is read as that
of the first. -/
theorem session_names_collide :
    (desiredOn .ascii dottedNames.disk 1 .plain "/run/ax.sock" "/p/.ax/config.yaml").map
        (fun desired => desired.workspaces.keys) = some ["a.b", "a_b"] ∧
      sessionName "a.b" = "ax-a_b" ∧ sessionName "a_b" = "ax-a_b" ∧
      decodeWorkspaceName (encodeWorkspaceName "a_b") = "a.b" := by
  decide +kernel

end Ax.Workspaces
