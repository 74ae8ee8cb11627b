import Mathlib.Algebra.GroupWithZero.Nat
import Ax.Foundation.Words

/-!
# The sessions of tmux

A workspace has the session `ax-<name>`, with the dots of its name replaced.  What sessions
there are is read from a text that tmux prints: a line for each session, with its name, the
number of attached clients and the number of windows.  The text is taken apart at white
space, a session counts as attached if the number of clients is `1`, and the number of windows
has 32 bits.

Main results:

- Theorem `listing_faithful_iff`: a listing is read as it was printed exactly if all of its
  sessions are legible.
-/

namespace Ax.Tmux

/-! ## Session names -/

/-- `SESSION_PREFIX`. -/
def sessionStart : String :=
  "ax-"

def replaceChar (old new : Char) (s : String) : String :=
  String.ofList (s.toList.map fun c => if c = old then new else c)

/-- `encode_workspace_name`. -/
def encodeWorkspaceName (workspace : String) : String :=
  replaceChar '.' '_' workspace

/-- `decode_workspace_name`. -/
def decodeWorkspaceName (encoded : String) : String :=
  replaceChar '_' '.' encoded

/-- `session_name`. -/
def sessionName (workspace : String) : String :=
  sessionStart ++ encodeWorkspaceName workspace

lemma map_eq_self_iff {α : Type} {f : α → α} {xs : List α} :
    xs.map f = xs ↔ ∀ x ∈ xs, f x = x := by
  induction xs with
  | nil => simp
  | cons x xs ih => simp [ih]

lemma decode_encode_iff {workspace : String} :
    decodeWorkspaceName (encodeWorkspaceName workspace) = workspace ↔
      '_' ∉ workspace.toList := by
  have hchar : ∀ c : Char,
      (if (if c = '.' then '_' else c) = '_' then '.' else if c = '.' then '_' else c) = c ↔
        c ≠ '_' := by
    intro c
    by_cases hdot : c = '.'
    · subst hdot
      decide
    · by_cases hunder : c = '_'
      · subst hunder
        decide
      · simp [hdot, hunder]
  rw [decodeWorkspaceName, encodeWorkspaceName, replaceChar, replaceChar, String.toList_ofList,
    List.map_map, ← String.toList_inj, String.toList_ofList, map_eq_self_iff]
  constructor
  · intro h hmem
    exact (hchar '_').mp (h '_' hmem) rfl
  · intro h c hc
    refine (hchar c).mpr ?_
    rintro rfl
    exact h hc

lemma sessionName_injOn {a b : String} (ha : '_' ∉ a.toList) (hb : '_' ∉ b.toList)
    (h : sessionName a = sessionName b) : a = b := by
  have hencode : encodeWorkspaceName a = encodeWorkspaceName b :=
    (String.append_right_inj sessionStart).mp h
  rw [← decode_encode_iff.mpr ha, hencode, decode_encode_iff.mpr hb]

lemma length_sessionName (workspace : String) :
    (sessionName workspace).length = workspace.length + 3 := by
  have hlength : (encodeWorkspaceName workspace).length = workspace.length := by
    rw [encodeWorkspaceName, replaceChar, String.length_ofList, List.length_map,
      String.length_toList]
  rw [sessionName, String.length_append, hlength, Nat.add_comm]
  rfl

/-! ## Lists of what was read -/

/-- If one function says as little as the other, it leaves as many results. -/
theorem length_filterMap_le {α β : Type} {f g : α → Option β} {xs : List α}
    (hsome : ∀ x ∈ xs, (g x).isSome → (f x).isSome) :
    (xs.filterMap g).length ≤ (xs.filterMap f).length := by
  induction xs with
  | nil => exact le_rfl
  | cons x xs ih =>
    have hrest := ih fun x hx => hsome x (List.mem_cons_of_mem _ hx)
    have hx := hsome x List.mem_cons_self
    rw [List.filterMap_cons, List.filterMap_cons]
    cases hg : g x with
    | none =>
      cases hf : f x with
      | none => exact hrest
      | some b => exact hrest.trans (Nat.le_succ _)
    | some c =>
      rw [hg] at hx
      obtain ⟨b, hb⟩ := Option.isSome_iff_exists.mp (hx rfl)
      rw [hb]
      exact Nat.succ_le_succ hrest

lemma eq_of_filterMap_eq {α β : Type} {f g : α → Option β} {xs : List α}
    (hsome : ∀ x ∈ xs, (g x).isSome → (f x).isSome)
    (h : xs.filterMap f = xs.filterMap g) : ∀ x ∈ xs, f x = g x := by
  induction xs with
  | nil => simp
  | cons x xs ih =>
    have hrest : ∀ y ∈ xs, (g y).isSome → (f y).isSome := fun y hy =>
      hsome y (List.mem_cons_of_mem _ hy)
    have hx := hsome x List.mem_cons_self
    have hlength := length_filterMap_le hrest
    rw [List.filterMap_cons, List.filterMap_cons] at h
    cases hf : f x with
    | none =>
      cases hg : g x with
      | none =>
        rw [hf, hg] at h
        rintro y (_ | ⟨_, hy⟩)
        · rw [hf, hg]
        · exact ih hrest h y hy
      | some c => simp [hf, hg] at hx
    | some b =>
      cases hg : g x with
      | none =>
        -- One result more on one side would have to be made up for on the other.
        rw [hf, hg] at h
        have hlengths : (xs.filterMap f).length + 1 = (xs.filterMap g).length :=
          congrArg List.length h
        omega
      | some c =>
        rw [hf, hg] at h
        obtain ⟨rfl, hh⟩ := List.cons.inj h
        rintro y (_ | ⟨_, hy⟩)
        · rw [hf, hg]
        · exact ih hrest hh y hy

/-! ## Reading a listing -/

structure SessionInfo where
  name : String
  workspace : String
  attached : Bool
  windows : Nat
deriving DecidableEq, Repr

inductive TmuxError
  | command (op message : String)
  | sessionNotFound (workspace : String)
  | parse (message : String)
  | io (source : String)
deriving DecidableEq, Repr

def parseLine (line : List Char) : Option SessionInfo :=
  match (Text.wordsOf line).map String.ofList with
  | [name, clients, windows] =>
    (Text.stripStart sessionStart name).map fun encoded =>
      { name := name
        workspace := decodeWorkspaceName encoded
        attached := clients = "1"
        windows := (Text.parseNat (2 ^ 32) windows).getD 1 }
  | _ => none

/-- `parse_list_sessions_stdout`. -/
def parseListSessionsStdout (stdout : String) : Except TmuxError (List SessionInfo) :=
  .ok ((Text.linesOf (Text.trim stdout).toList).filterMap parseLine)

/-! ## Printing a listing -/

structure LiveSession where
  name : String
  clients : Nat
  windows : Nat
  name_ne : name ≠ ""
  name_line : '\n' ∉ name.toList
  windows_pos : 1 ≤ windows

namespace LiveSession

/-- The line of a session, in the format that `list_sessions` asks for. -/
def line (s : LiveSession) : String :=
  s.name ++ " " ++ Nat.repr s.clients ++ " " ++ Nat.repr s.windows

/-- What tmux prints. -/
def listing (ss : List LiveSession) : String :=
  String.join (ss.map fun s => s.line ++ "\n")

def info (s : LiveSession) : Option SessionInfo :=
  (Text.stripStart sessionStart s.name).map fun encoded =>
    { name := s.name
      workspace := decodeWorkspaceName encoded
      attached := 1 ≤ s.clients
      windows := s.windows }

def Legible (s : LiveSession) : Prop :=
  if (Text.stripStart sessionStart s.name).isSome then
    (∀ c ∈ s.name.toList, Text.isWhitespace c = false) ∧ s.clients ≤ 1 ∧ s.windows < 2 ^ 32
  else ∀ word, Text.words s.name = [word] → Text.stripStart sessionStart word = none

variable (s : LiveSession)

lemma wordsOf_line :
    Text.wordsOf s.line.toList = Text.wordsOf s.name.toList ++
      [(Nat.repr s.clients).toList, (Nat.repr s.windows).toList] := by
  have hspace : Text.isWhitespace ' ' = true := by decide
  have hline : s.line.toList = s.name.toList ++
      ' ' :: ((Nat.repr s.clients).toList ++ ' ' :: (Nat.repr s.windows).toList) := by
    simp [line]
  rw [hline, Text.wordsOf_append_cons hspace, Text.wordsOf_append_cons hspace,
    Text.wordsOf_repr, Text.wordsOf_repr]
  rfl

lemma parseLine_line :
    parseLine s.line.toList =
      match Text.words s.name with
      | [word] => (Text.stripStart sessionStart word).map fun encoded =>
        ⟨word, decodeWorkspaceName encoded, s.clients = 1,
          if s.windows < 2 ^ 32 then s.windows else 1⟩
      | _ => none := by
  have hwindows : (Text.parseNat (2 ^ 32) (Nat.repr s.windows)).getD 1 =
      if s.windows < 2 ^ 32 then s.windows else 1 := by
    rw [Text.parseNat_repr]
    split <;> rfl
  have hclients : decide (Nat.repr s.clients = "1") = decide (s.clients = 1) := by
    refine decide_eq_decide.mpr ⟨fun h => Text.eq_of_repr_eq (h.trans ?_), fun h => ?_⟩
    · rfl
    · rw [h]
      rfl
  unfold parseLine
  rw [wordsOf_line, List.map_append, List.map_cons, List.map_cons, List.map_nil,
    String.ofList_toList, String.ofList_toList]
  change (match Text.words s.name ++ [Nat.repr s.clients, Nat.repr s.windows] with
    | [name, clients, windows] => _
    | _ => _) = _
  cases Text.words s.name with
  | nil => rfl
  | cons word rest =>
    cases rest with
    | nil => simp only [List.cons_append, List.nil_append, hwindows, hclients]
    | cons other rest =>
      cases rest with
      | nil => rfl
      | cons third rest => cases rest <;> rfl

lemma words_name_eq_iff :
    Text.words s.name = [s.name] ↔ ∀ c ∈ s.name.toList, Text.isWhitespace c = false := by
  have hne : s.name.toList ≠ [] := by
    rw [Ne, String.toList_eq_nil_iff]
    exact s.name_ne
  rw [← Text.wordsOf_eq_self_iff hne]
  constructor
  · intro h
    have hlists := congrArg (List.map String.toList) h
    simpa [Text.words, Function.comp_def] using hlists
  · intro h
    rw [Text.words, h, List.map_cons, List.map_nil, String.ofList_toList]

lemma parseLine_eq_info_iff : parseLine s.line.toList = s.info ↔ s.Legible := by
  rw [parseLine_line]
  cases hstrip : Text.stripStart sessionStart s.name with
  | none =>
    simp only [info, Legible, hstrip, Option.map_none, Option.isSome_none, Bool.false_eq_true,
      if_false]
    constructor
    · intro h word hword
      rw [hword] at h
      simpa using h
    · intro h
      split
      · rename_i word hword
        rw [h word hword, Option.map_none]
      · rfl
  | some encoded =>
    simp only [info, Legible, hstrip, Option.map_some, Option.isSome_some, if_true]
    constructor
    · intro h
      split at h
      · rename_i word hword
        obtain ⟨rest, hrest, heq⟩ := Option.map_eq_some_iff.mp h
        obtain ⟨rfl, _, hclients, hwindows⟩ := SessionInfo.mk.inj heq
        refine ⟨s.words_name_eq_iff.mp hword, ?_, ?_⟩
        · have hiff := decide_eq_decide.mp hclients
          omega
        · have hpos := s.windows_pos
          split at hwindows <;> omega
      · cases h
    · rintro ⟨hname, hclients, hwindows⟩
      have hattached : decide (s.clients = 1) = decide (1 ≤ s.clients) :=
        decide_eq_decide.mpr (by omega)
      rw [s.words_name_eq_iff.mpr hname]
      simp only [hstrip, Option.map_some, if_pos hwindows, hattached]

/-! ## Whole listings -/

lemma ended_line : Text.Ended s.line.toList := by
  have hne : (Nat.repr s.windows).toList ≠ [] := by
    rw [Nat.toList_repr]
    exact Nat.toDigits_ne_nil
  have hlast : Text.Ended (Nat.repr s.windows).toList :=
    ⟨_, _, (List.dropLast_append_getLast hne).symm,
      Text.isWhitespace_of_isDigit (Text.isDigit_of_mem_repr (List.getLast_mem hne))⟩
  rw [line, String.toList_append]
  exact hlast.append _

lemma newline_notMem_line : '\n' ∉ s.line.toList := by
  have hdigits : ∀ n : Nat, '\n' ∉ (Nat.repr n).toList := fun n h =>
    absurd (Text.isDigit_of_mem_repr h) (by decide)
  simp only [line, String.toList_append, List.mem_append, not_or]
  exact ⟨⟨⟨⟨s.name_line, by decide⟩, hdigits _⟩, by decide⟩, hdigits _⟩

lemma toList_listing (ss : List LiveSession) :
    (listing ss).toList = (ss.map fun s => s.line.toList).flatMap (· ++ ['\n']) := by
  induction ss with
  | nil => rfl
  | cons s ss ih => simp_all [listing, String.join_cons]

lemma parse_listing (ss : List LiveSession) :
    parseListSessionsStdout (listing ss) =
      .ok (ss.filterMap fun s => parseLine s.line.toList) := by
  cases ss with
  | nil => rfl
  | cons s ss =>
    have hlines : ∀ P : List Char → Prop, (∀ s : LiveSession, P s.line.toList) →
        ∀ line ∈ s.line.toList :: ss.map fun s => s.line.toList, P line := by
      intro P hP line hline
      rw [← List.map_cons (f := fun s : LiveSession => s.line.toList)] at hline
      obtain ⟨s, -, rfl⟩ := List.mem_map.mp hline
      exact hP s
    have hfirst : parseLine (s.line.toList.dropWhile Text.isWhitespace) =
        parseLine s.line.toList := by
      rw [parseLine, parseLine, Text.wordsOf_dropWhile]
    rw [parseListSessionsStdout, Text.trim, String.toList_ofList, toList_listing, List.map_cons,
      Text.linesOf_trimChars (hlines _ ended_line) (hlines _ newline_notMem_line),
      List.filterMap_cons, List.filterMap_cons, hfirst, List.filterMap_map]
    rfl

lemma isWhitespace_of_parseLine {cs : List Char} {i : SessionInfo} (h : parseLine cs = some i) :
    ∀ c ∈ i.name.toList, Text.isWhitespace c = false := by
  unfold parseLine at h
  split at h
  · rename_i name clients windows hwords
    obtain ⟨encoded, -, rfl⟩ := Option.map_eq_some_iff.mp h
    have hmem : name ∈ (Text.wordsOf cs).map String.ofList := by
      rw [hwords]
      exact List.mem_cons_self
    obtain ⟨w, hw, rfl⟩ := List.mem_map.mp hmem
    rw [String.toList_ofList]
    exact Text.isWhitespace_of_mem_wordsOf hw
  · cases h

lemma isSome_parseLine_line {s : LiveSession}
    (hstart : (Text.stripStart sessionStart s.name).isSome)
    (hname : ∀ c ∈ s.name.toList, Text.isWhitespace c = false) :
    (parseLine s.line.toList).isSome := by
  rw [parseLine_line, s.words_name_eq_iff.mpr hname]
  simpa using hstart

/-- A listing is read as it was printed exactly if all of its sessions are legible. -/
theorem listing_faithful_iff (ss : List LiveSession) :
    parseListSessionsStdout (listing ss) = .ok (ss.filterMap info) ↔ ∀ s ∈ ss, s.Legible := by
  rw [parse_listing, Except.ok.injEq]
  constructor
  · intro h
    -- What is said about a session is in the list that was read, so its name is a word.
    have hread : ∀ s ∈ ss, s.info.isSome → (parseLine s.line.toList).isSome := by
      intro s hs hinfo
      obtain ⟨i, hi⟩ := Option.isSome_iff_exists.mp hinfo
      have hmem : i ∈ ss.filterMap fun s => parseLine s.line.toList := by
        rw [h]
        exact List.mem_filterMap.mpr ⟨s, hs, hi⟩
      obtain ⟨s', -, hs'⟩ := List.mem_filterMap.mp hmem
      obtain ⟨encoded, hstrip, rfl⟩ := Option.map_eq_some_iff.mp hi
      exact isSome_parseLine_line (Option.isSome_iff_exists.mpr ⟨encoded, hstrip⟩)
        (isWhitespace_of_parseLine hs')
    exact fun s hs => s.parseLine_eq_info_iff.mp (eq_of_filterMap_eq hread h s hs)
  · intro h
    exact List.filterMap_congr fun s hs => s.parseLine_eq_info_iff.mpr (h s hs)

/-- Two clients at a session of ax are read as none. -/
theorem listing_unfaithful_twoClients :
    let s : LiveSession := ⟨"ax-w", 2, 1, by decide, by decide, by decide⟩
    listing [s] = "ax-w 2 1\n" ∧
      s.info = some ⟨"ax-w", "w", true, 1⟩ ∧
      parseListSessionsStdout (listing [s]) = .ok [⟨"ax-w", "w", false, 1⟩] := by
  intro s
  have hword : Text.words s.name = [s.name] :=
    s.words_name_eq_iff.mpr (by simp [s, Text.isWhitespace])
  have hstrip : Text.stripStart sessionStart s.name = some "w" := by decide
  have hdecode : decodeWorkspaceName "w" = "w" := by decide
  refine ⟨by decide, by decide, ?_⟩
  rw [parse_listing, List.filterMap_cons, parseLine_line, hword]
  simp only [hstrip, Option.map_some, hdecode]
  rfl

end LiveSession
end Ax.Tmux
