import Ax.Foundation.JsonValue
import Ax.Workspace.Machine
import Ax.Workspace.Artifacts

/-!
# Servers of the user in `.mcp.json`

The file `.mcp.json` is read into a map of servers with a command and arguments, changed at the
server `ax` and written back.  What the map does not hold is lost on the way: other members of
the file and other fields of a server.  A file without these keeps the servers of the user.

Main results:

- Theorem `mcp_servers_merged_iff`: the files of the user that are there after any calls and that
  a final removal leaves without the server `ax`.
- Theorem `mcp_servers_lost`: a field of a server and a member of the file that are lost.
-/

namespace Ax.Workspaces

open Fallible

/-! ## The file -/

/-- A backend holds the file at a path.  A write that fails may leave anything there. -/
structure HoldsFile {σ : Type} (exec : Exec σ) (path : String) (file : σ → Option Json) :
    Prop where
  read_some : ∀ s j, file s = some j →
    (exec (.readJson path) s).1 = .ok (.ok j) ∨
      ∃ e, (exec (.readJson path) s).1 = .error e ∧ e.kind ≠ .notFound
  read_none : ∀ s, file s = none → ∃ e, (exec (.readJson path) s).1 = .error e
  read_keeps : ∀ s, file (exec (.readJson path) s).2 = file s
  written : ∀ s j, (exec (.writeJson path j) s).1 = .ok () →
    file (exec (.writeJson path j) s).2 = some j
  removed : ∀ s, (exec (.removeFile path) s).1 = .ok () →
    file (exec (.removeFile path) s).2 = none
  notRemoved : ∀ s e, (exec (.removeFile path) s).1 = .error e →
    file (exec (.removeFile path) s).2 = file s
  notFound : ∀ s e, (exec (.removeFile path) s).1 = .error e → e.kind = .notFound →
    file s = none

lemma Machine.holdsFile_exec (path : String) :
    HoldsFile exec path fun m => m.document (locate path) where
  read_some m j h := .inl (by simp only [exec, h]; rfl)
  read_none m h := ⟨notFound, by simp only [exec, h]; rfl⟩
  read_keeps m := rfl
  written m j _ := by simp [exec, put]
  removed m _ := by simp [exec, put]
  notRemoved m e h := by cases h
  notFound m e h := by cases h

/-! ## Calls -/

/-- A call of `write_mcp_config` or `remove_mcp_config`. -/
inductive McpCall
  | write (workspace socketPath : String) (configPath : Option String) (axBin : String)
  | remove
deriving DecidableEq, Repr

namespace McpCall

def perform (dir : String) : McpCall → Action McpConfigError Unit
  | .write workspace socketPath configPath axBin =>
    writeMcpConfig dir workspace socketPath configPath axBin
  | .remove => removeMcpConfig dir

def after {σ : Type} (exec : Exec σ) (dir : String) (calls : List McpCall) (s : σ) : σ :=
  calls.foldl (fun s call => ((call.perform dir).run.run exec s).2) s

/-- The answer is not that the file could not be written. -/
def written : Except McpConfigError Unit → Bool
  | .error (.write ..) => false
  | _ => true

/-- None of the calls fails to write the file. -/
def allWritten {σ : Type} (exec : Exec σ) (dir : String) : List McpCall → σ → Bool
  | [], _ => true
  | call :: rest, s =>
    let (answer, t) := (call.perform dir).run.run exec s
    written answer && allWritten exec dir rest t

end McpCall

/-! ## What there is in the file -/

def fileValue (file : Option Json) : Json :=
  file.getD (.obj [])

lemma fileValue_some (j : Json) : fileValue (some j) = j :=
  rfl

def server? (name : String) (j : Json) : Option Json :=
  (j.member? "mcpServers").bind fun servers => servers.member? name

/-- All members other than the servers are the same, and all servers other than `ax`. -/
structure KeepsServers (original current : Json) : Prop where
  members : ∀ name, name ≠ "mcpServers" →
    Option.Rel Json.Same (original.member? name) (current.member? name)
  servers : ∀ name, name ≠ McpConfig.axServerKey →
    Option.Rel Json.Same (server? name original) (server? name current)

def dropServer (name : String) : Json → Json
  | .obj entries => .obj (entries.filter fun entry => entry.1 ≠ name)
  | j => j

def withoutServer (name : String) : Json → Json
  | .obj entries => .obj (entries.map fun entry =>
    (entry.1, if entry.1 = "mcpServers" then dropServer name entry.2 else entry.2))
  | j => j

def readable (file : Option Json) : Option McpConfig :=
  file.bind fun j => (McpConfig.codec.decode j).toOption

/-- The servers of the user: all that are read but `ax`. -/
def usersServers (file : Option Json) : BTreeMap String McpServerEntry :=
  ((readable file).getD McpConfig.empty).mcpServers.erase McpConfig.axServerKey

/-- The file has no member but the servers, and those of the user are read without loss; if there
are none then there is no member at all. -/
def Mergeable (file : Option Json) : Prop :=
  ∃ entries, fileValue file = .obj entries ∧
    (∀ name, name ≠ "mcpServers" → Json.lookup entries name = none) ∧
    if usersServers file = ∅ then Json.lookup entries "mcpServers" = none
    else ∃ servers, Json.lookup entries "mcpServers" = some (.obj servers) ∧
      ∀ name, name ≠ McpConfig.axServerKey → Option.Rel Json.Same (Json.lookup servers name)
        ((usersServers file)[name]?.map McpConfig.entryCodec.encode)

/-- What a removal leaves. -/
def cleaned (servers : BTreeMap String McpServerEntry) : Option Json :=
  if servers.isEmpty then none else some (McpConfig.codec.encode ⟨servers⟩)

/-- The file is the one of the user, or it has the servers of the user and at most `ax`. -/
def OffersOnly (original current : Option Json) : Prop :=
  current = original ∨ (current = none ∧ usersServers original = ∅) ∨
    ∃ servers, current = some (McpConfig.codec.encode ⟨servers⟩) ∧
      servers.erase McpConfig.axServerKey = usersServers original

@[simp]
lemma readable_encode (cfg : McpConfig) :
    readable (some (McpConfig.codec.encode cfg)) = some cfg := by
  rw [readable, Option.bind_some, McpConfig.codec.decode_encode]
  rfl

variable {servers : BTreeMap String McpServerEntry} {original current : Option Json}

lemma member?_encode (servers : BTreeMap String McpServerEntry) (name : String) :
    (McpConfig.codec.encode ⟨servers⟩).member? name =
      if name = "mcpServers" then some ((Codec.mapping McpConfig.entryCodec).encode servers)
      else none := by
  have hencode : McpConfig.codec.encode ⟨servers⟩ =
      .obj [("mcpServers", (Codec.mapping McpConfig.entryCodec).encode servers)] := rfl
  rw [hencode, Json.member?, Json.lookup, List.reverse_singleton, List.find?_singleton]
  by_cases hname : name = "mcpServers"
  · simp [hname]
  · simp [hname, Ne.symm hname]

lemma server?_encode (servers : BTreeMap String McpServerEntry) (name : String) :
    server? name (McpConfig.codec.encode ⟨servers⟩) =
      servers[name]?.map McpConfig.entryCodec.encode := by
  rw [server?, member?_encode, if_pos rfl, Option.bind_some]
  exact Json.lookup_toList McpConfig.entryCodec servers name

/-! ## Single calls -/

section Calls

variable {σ : Type} {exec : Exec σ} {dir : String} {file : σ → Option Json} {s t : σ}
  {l : List Cmd}

variable (hfile : HoldsFile exec (Path.join dir McpConfig.file) file)
include hfile

lemma HoldsFile.ofRead_eq {path : String} {cfg : McpConfig}
    (h : McpConfig.ofRead path (exec (.readJson (Path.join dir McpConfig.file)) s).1 = .ok cfg) :
    cfg = (readable (file s)).getD McpConfig.empty := by
  cases hs : file s with
  | none =>
    obtain ⟨e, he⟩ := hfile.read_none s hs
    rw [he, McpConfig.ofRead] at h
    split at h
    · exact (Except.ok.inj h).symm
    · cases h
  | some j =>
    rcases hfile.read_some s j hs with hj | ⟨e, he, hkind⟩
    · rw [hj] at h
      exact (Except.ok.inj h).symm
    · rw [he, McpConfig.ofRead, if_neg hkind] at h
      cases h

lemma HoldsFile.of_writeMcpConfig {workspace socketPath axBin : String}
    {configPath : Option String} {r : Except McpConfigError Unit}
    (h : Runs exec (writeMcpConfig dir workspace socketPath configPath axBin) s r t l)
    (hwritten : McpCall.written r = true) :
    file t = file s ∨ file t = some (McpConfig.codec.encode
      ⟨((readable (file s)).getD McpConfig.empty).mcpServers.insert McpConfig.axServerKey
        (McpConfig.axEntry workspace socketPath configPath axBin)⟩) := by
  obtain ⟨l₁, h₁, -⟩ := runs_ask_bind.mp h
  rcases runs_bind.mp h₁ with ⟨e, -, hraise⟩ | ⟨cfg, s₂, l₃, l₄, hraise, h₂, rfl⟩
  · obtain ⟨-, rfl, -⟩ := runs_raise.mp hraise
    exact .inl (hfile.read_keeps s)
  obtain ⟨hcfg, rfl, rfl⟩ := runs_raise_ok.mp hraise
  obtain rfl := hfile.ofRead_eq hcfg
  obtain ⟨l₅, h₃, -⟩ := runs_ask_bind.mp h₂
  obtain ⟨rfl, rfl, -⟩ := runs_raise.mp h₃
  rcases hresult : (exec (.writeJson _ _) _).1 with e | ⟨⟩
  · rw [hresult] at hwritten
    cases hwritten
  · exact .inr (hfile.written _ _ hresult)

lemma HoldsFile.toClean_eq {path : String} {found : Option McpConfig}
    (h : McpConfig.toClean path (exec (.readJson (Path.join dir McpConfig.file)) s).1 = .ok found) :
    found = readable (file s) := by
  cases hs : file s with
  | none =>
    obtain ⟨e, he⟩ := hfile.read_none s hs
    rw [he, McpConfig.toClean] at h
    split at h
    · exact (Except.ok.inj h).symm
    · cases h
  | some j =>
    rcases hfile.read_some s j hs with hj | ⟨e, he, hkind⟩
    · rw [hj] at h
      exact (Except.ok.inj h).symm
    · rw [he, McpConfig.toClean, if_neg hkind] at h
      cases h

lemma HoldsFile.of_removeMcpConfig {r : Except McpConfigError Unit}
    (h : Runs exec (removeMcpConfig dir) s r t l) (hwritten : McpCall.written r = true) :
    (file t = file s ∧ (r = .ok () → readable (file s) = none)) ∨
      ∃ cfg, readable (file s) = some cfg ∧
        file t = cleaned (cfg.mcpServers.erase McpConfig.axServerKey) := by
  obtain ⟨l₁, h₁, -⟩ := runs_ask_bind.mp h
  rcases runs_bind.mp h₁ with ⟨e, rfl, hraise⟩ | ⟨found, s₂, l₃, l₄, hraise, h₂, rfl⟩
  · obtain ⟨-, rfl, -⟩ := runs_raise.mp hraise
    exact .inl ⟨hfile.read_keeps s, by simp⟩
  obtain ⟨hfound, rfl, rfl⟩ := runs_raise_ok.mp hraise
  have hreadable := hfile.toClean_eq hfound
  have hkeeps := hfile.read_keeps s
  cases found with
  | none =>
    obtain ⟨-, rfl, -⟩ := runs_pure.mp h₂
    exact .inl ⟨hkeeps, fun _ => hreadable.symm⟩
  | some cfg =>
    dsimp only at h₂
    have hpresent : file (exec (.readJson (Path.join dir McpConfig.file)) s).2 ≠ none := by
      rw [hkeeps]
      intro hnone
      rw [hnone] at hreadable
      cases hreadable
    split at h₂
    · -- Nothing but `ax` was left: the file is removed.
      rename_i hempty
      obtain ⟨l₅, h₃, -⟩ := runs_ask_bind.mp h₂
      obtain ⟨rfl, rfl, -⟩ := runs_raise.mp h₃
      rcases hresult : (exec (.removeFile (Path.join dir McpConfig.file)) _).1 with e | ⟨⟩
      · refine .inl ⟨(hfile.notRemoved _ e hresult).trans hkeeps, fun hok => ?_⟩
        rw [orNotFound] at hok
        split at hok
        · exact absurd (hfile.notFound _ e hresult ‹_›) hpresent
        · cases hok
      · refine .inr ⟨cfg, hreadable.symm, ?_⟩
        rw [cleaned, if_pos hempty]
        exact hfile.removed _ hresult
    · rename_i hempty
      obtain ⟨l₅, h₃, -⟩ := runs_ask_bind.mp h₂
      obtain ⟨rfl, rfl, -⟩ := runs_raise.mp h₃
      rcases hresult : (exec (.writeJson (Path.join dir McpConfig.file) _) _).1 with e | ⟨⟩
      · rw [hresult] at hwritten
        cases hwritten
      · refine .inr ⟨cfg, hreadable.symm, ?_⟩
        rw [cleaned, if_neg hempty]
        exact hfile.written _ _ hresult

end Calls

/-! ## Runs of calls -/

namespace OffersOnly

lemma usersServers_eq (h : OffersOnly original current) :
    usersServers current = usersServers original := by
  rcases h with rfl | ⟨rfl, hempty⟩ | ⟨servers, rfl, hservers⟩
  · rfl
  · rw [hempty]
    rfl
  · rw [usersServers, readable_encode]
    exact hservers

lemma perform {σ : Type} {exec : Exec σ} {dir : String} {file : σ → Option Json}
    (hfile : HoldsFile exec (Path.join dir McpConfig.file) file) {s : σ}
    (h : OffersOnly original (file s)) (call : McpCall)
    (hwritten : McpCall.written ((call.perform dir).run.run exec s).1 = true) :
    OffersOnly original (file ((call.perform dir).run.run exec s).2) := by
  have husers := h.usersServers_eq
  cases call with
  | write workspace socketPath configPath axBin =>
    rcases hfile.of_writeMcpConfig (Prog.runs_run _ s) hwritten with hsame | hfile
    · exact hsame ▸ h
    · refine .inr (.inr ⟨_, hfile, ?_⟩)
      rw [BTreeMap.erase_insert_self, ← husers]
      rfl
  | remove =>
    rcases hfile.of_removeMcpConfig (Prog.runs_run _ s) hwritten with
      ⟨hsame, -⟩ | ⟨cfg, hcfg, hcleaned⟩
    · exact hsame ▸ h
    · have hservers : cfg.mcpServers.erase McpConfig.axServerKey = usersServers original := by
        rw [← husers, usersServers, hcfg]
        rfl
      rw [hservers, cleaned] at hcleaned
      split at hcleaned
      · exact .inr (.inl ⟨hcleaned, Std.ExtTreeMap.isEmpty_iff.mp ‹_›⟩)
      · refine .inr (.inr ⟨_, hcleaned, ?_⟩)
        rw [← hservers, BTreeMap.erase_erase_self]

lemma after {σ : Type} {exec : Exec σ} {dir : String} {file : σ → Option Json}
    (hfile : HoldsFile exec (Path.join dir McpConfig.file) file) {s : σ}
    (h : OffersOnly original (file s)) {calls : List McpCall}
    (hwritten : McpCall.allWritten exec dir calls s = true) :
    OffersOnly original (file (McpCall.after exec dir calls s)) := by
  induction calls generalizing s with
  | nil => exact h
  | cons call calls ih =>
    obtain ⟨hcall, hcalls⟩ := Bool.and_eq_true_iff.mp hwritten
    exact ih (perform hfile h call hcall) hcalls

end OffersOnly

/-! ## Files that are read without loss -/

lemma rel_none_iff {found : Option Json} : Option.Rel Json.Same found none ↔ found = none := by
  constructor
  · rintro ⟨⟩
    rfl
  · rintro rfl
    exact .none

lemma getElem?_usersServers : (usersServers original)[McpConfig.axServerKey]? = none := by
  rw [usersServers, BTreeMap.get?_erase, if_pos rfl]

lemma same_dropServer_iff {j : Json} (h : servers[McpConfig.axServerKey]? = none) :
    (dropServer McpConfig.axServerKey j).Same
        ((Codec.mapping McpConfig.entryCodec).encode servers) ↔
      ∃ entries, j = .obj entries ∧ ∀ name, name ≠ McpConfig.axServerKey →
        Option.Rel Json.Same (Json.lookup entries name)
          (servers[name]?.map McpConfig.entryCodec.encode) := by
  constructor
  · intro hsame
    cases j with
    | obj entries =>
      refine ⟨entries, rfl, fun name hname => ?_⟩
      have hmember := hsame.member? name
      rw [dropServer, Json.member?, Json.lookup_filter, if_neg hname] at hmember
      exact Json.lookup_toList McpConfig.entryCodec servers name ▸ hmember
    | _ => cases hsame
  · rintro ⟨entries, rfl, hentries⟩
    refine .obj fun name => ?_
    rw [Json.lookup_filter, Json.lookup_toList]
    split
    · rename_i hname
      rw [hname, h]
      exact .none
    · exact hentries name ‹_›

lemma exists_cleaned (servers : BTreeMap String McpServerEntry) :
    ∃ entries, fileValue (cleaned servers) = .obj entries := by
  unfold cleaned
  split <;> exact ⟨_, rfl⟩

lemma same_cleaned_iff {entries : List (String × Json)} :
    (Json.obj entries).Same (fileValue (cleaned servers)) ↔
      (∀ name, name ≠ "mcpServers" → Json.lookup entries name = none) ∧
        Option.Rel Json.Same (Json.lookup entries "mcpServers")
          (if servers = ∅ then none
            else some ((Codec.mapping McpConfig.entryCodec).encode servers)) := by
  have hmember (name : String) : (fileValue (cleaned servers)).member? name =
      if name = "mcpServers" then
        if servers = ∅ then none else some ((Codec.mapping McpConfig.entryCodec).encode servers)
      else none := by
    simp only [cleaned, Std.ExtTreeMap.isEmpty_iff]
    split
    · exact (ite_self none).symm
    · exact member?_encode servers name
  constructor
  · intro h
    refine ⟨fun name hname => ?_, ?_⟩
    · have hrel := h.member? name
      rwa [hmember, if_neg hname, rel_none_iff] at hrel
    · have hrel := h.member? "mcpServers"
      rwa [hmember, if_pos rfl] at hrel
  · rintro ⟨hothers, hservers⟩
    obtain ⟨entries', hobj⟩ := exists_cleaned servers
    rw [hobj] at hmember ⊢
    refine .obj fun name => ?_
    change Option.Rel Json.Same _ ((Json.obj entries').member? name)
    rw [hmember]
    split
    · rename_i hname
      exact hname ▸ hservers
    · exact rel_none_iff.mpr (hothers name ‹_›)

/-- A file is read without loss exactly if what a removal leaves of it is the file without `ax`. -/
lemma mergeable_iff : Mergeable original ↔
    (withoutServer McpConfig.axServerKey (fileValue original)).Same
      (fileValue (cleaned (usersServers original))) := by
  have hfound (found : Option Json) :
      Option.Rel Json.Same (found.map (dropServer McpConfig.axServerKey))
        (if usersServers original = ∅ then none else
          some ((Codec.mapping McpConfig.entryCodec).encode (usersServers original))) ↔
      if usersServers original = ∅ then found = none
      else ∃ entries, found = some (.obj entries) ∧ ∀ name, name ≠ McpConfig.axServerKey →
        Option.Rel Json.Same (Json.lookup entries name)
          ((usersServers original)[name]?.map McpConfig.entryCodec.encode) := by
    split
    · rw [rel_none_iff, Option.map_eq_none_iff]
    · cases found with
      | none => simp
      | some j =>
        rw [Option.map_some, Option.rel_some_some, same_dropServer_iff getElem?_usersServers]
        simp
  unfold Mergeable
  cases hvalue : fileValue original with
  | obj entries =>
    have hlookup := Json.lookup_map entries fun key value =>
      if key = "mcpServers" then dropServer McpConfig.axServerKey value else value
    simp only [withoutServer, same_cleaned_iff, hlookup, Option.map_eq_none_iff, if_true, hfound,
      Json.obj.injEq, exists_eq_left']
  | _ =>
    obtain ⟨entries, hobj⟩ := exists_cleaned (usersServers original)
    rw [hobj]
    refine iff_of_false ?_ ?_
    · rintro ⟨entries, ⟨⟩, -⟩
    · rintro ⟨⟩

namespace Mergeable

variable (h : Mergeable original)
include h

lemma member?_eq {name : String} (hname : name ≠ "mcpServers") :
    (fileValue original).member? name = none := by
  obtain ⟨entries, hvalue, hothers, -⟩ := h
  rw [hvalue]
  exact hothers name hname

lemma server?_rel {name : String} (hname : name ≠ McpConfig.axServerKey) :
    Option.Rel Json.Same (server? name (fileValue original))
      ((usersServers original)[name]?.map McpConfig.entryCodec.encode) := by
  obtain ⟨entries, hvalue, -, hservers⟩ := h
  rw [server?, hvalue, Json.member?]
  split at hservers
  · rename_i hempty
    rw [hservers, hempty, Std.ExtTreeMap.getElem?_empty]
    exact .none
  · obtain ⟨servers, hlookup, hrel⟩ := hservers
    rw [hlookup]
    exact hrel name hname

/-- What the user has is there as long as nothing else is written to the file. -/
lemma keepsServers (hoffers : OffersOnly original current) :
    KeepsServers (fileValue original) (fileValue current) := by
  rcases hoffers with rfl | ⟨rfl, hempty⟩ | ⟨servers, rfl, hservers⟩
  · exact ⟨fun name _ => Json.Same.rel_refl _, fun name _ => Json.Same.rel_refl _⟩
  · refine ⟨fun name hname => ?_, fun name hname => ?_⟩
    · rw [h.member?_eq hname]
      exact .none
    · have hrel := h.server?_rel hname
      rwa [hempty, Std.ExtTreeMap.getElem?_empty] at hrel
  · refine ⟨fun name hname => ?_, fun name hname => ?_⟩
    · rw [h.member?_eq hname, fileValue_some, member?_encode, if_neg hname]
      exact .none
    · have hentry : servers[name]? = (usersServers original)[name]? := by
        rw [← hservers, BTreeMap.get?_erase, if_neg hname]
      rw [fileValue_some, server?_encode, hentry]
      exact h.server?_rel hname

/-- A file that a removal does not read has no members. -/
lemma same_of_unread (hunread : readable original = none) :
    (withoutServer McpConfig.axServerKey (fileValue original)).Same (fileValue original) := by
  have hempty : usersServers original = ∅ := by
    rw [usersServers, hunread]
    rfl
  obtain ⟨entries, hvalue, hothers, hservers⟩ := h
  rw [if_pos hempty] at hservers
  have hnone (name : String) : Json.lookup entries name = none := by
    by_cases hname : name = "mcpServers"
    · exact hname ▸ hservers
    · exact hothers name hname
  rw [hvalue]
  refine .obj fun name => ?_
  rw [Json.lookup_map entries fun key value =>
    if key = "mcpServers" then dropServer McpConfig.axServerKey value else value, hnone]
  exact .none

end Mergeable

/-- The files that are merged: after any calls that do not fail to write, the file has what the
user has in it, and a final removal leaves it without the server `ax`.  It does so for no other
file that the calls leave readable. -/
theorem mcp_servers_merged_iff {σ : Type} {exec : Exec σ} {dir : String}
    {file : σ → Option Json} (hfile : HoldsFile exec (Path.join dir McpConfig.file) file) {s : σ}
    {calls : List McpCall} (hwritten : McpCall.allWritten exec dir calls s = true) :
    (Mergeable (file s) →
      KeepsServers (fileValue (file s)) (fileValue (file (McpCall.after exec dir calls s))) ∧
      ∀ t l, Runs exec (removeMcpConfig dir) (McpCall.after exec dir calls s) (.ok ()) t l →
        (withoutServer McpConfig.axServerKey (fileValue (file s))).Same (fileValue (file t))) ∧
    ((readable (file (McpCall.after exec dir calls s))).isSome = true →
      ∀ t l, Runs exec (removeMcpConfig dir) (McpCall.after exec dir calls s) (.ok ()) t l →
        (withoutServer McpConfig.axServerKey (fileValue (file s))).Same (fileValue (file t)) →
        Mergeable (file s)) := by
  have hoffers : OffersOnly (file s) _ := OffersOnly.after hfile (.inl rfl) hwritten
  have hcleaned {t : σ} {l : List Cmd}
      (h : Runs exec (removeMcpConfig dir) (McpCall.after exec dir calls s) (.ok ()) t l)
      (hread : readable (file (McpCall.after exec dir calls s)) ≠ none) :
      file t = cleaned (usersServers (file s)) := by
    rcases hfile.of_removeMcpConfig h rfl with ⟨-, hunread⟩ | ⟨cfg, hcfg, ht⟩
    · exact absurd (hunread rfl) hread
    · rw [ht, ← hoffers.usersServers_eq, usersServers, hcfg]
      rfl
  constructor
  · refine fun h => ⟨h.keepsServers hoffers, fun t l hrun => ?_⟩
    by_cases hread : readable (file (McpCall.after exec dir calls s)) = none
    · rcases hfile.of_removeMcpConfig hrun rfl with ⟨hsame, -⟩ | ⟨cfg, hcfg, -⟩
      · rw [hsame]
        rcases hoffers with horiginal | ⟨habsent, husers⟩ | ⟨servers, hservers, -⟩
        · rw [horiginal] at hread ⊢
          exact h.same_of_unread hread
        · have hsame := mergeable_iff.mp h
          rw [husers] at hsame
          rw [habsent]
          exact hsame
        · rw [hservers, readable_encode] at hread
          cases hread
      · rw [hread] at hcfg
        cases hcfg
    · rw [hcleaned hrun hread]
      exact mergeable_iff.mp h
  · intro hread t l hrun hsame
    rw [hcleaned hrun (Option.isSome_iff_ne_none.mp hread)] at hsame
    exact mergeable_iff.mpr hsame

/-- A file with a server of the user and a server `ax` with a field of its own. -/
def sharedFile : Json :=
  .obj [("mcpServers", .obj [("ax", .obj [("command", .str "ax"), ("args", .arr []),
    ("env", .obj [])]), ("search", McpConfig.entryCodec.encode ⟨"npx", ["-y"]⟩)])]

lemma mergeable_sharedFile : Mergeable (some sharedFile) := by
  have husers : usersServers (some sharedFile) =
      (∅ : BTreeMap String McpServerEntry).insert "search" ⟨"npx", ["-y"]⟩ := by
    decide +kernel
  refine ⟨_, rfl, fun name hname => ?_, ?_⟩
  · simp [Json.lookup, Ne.symm hname]
  · rw [husers, if_neg (by decide)]
    refine ⟨_, rfl, fun name hname => ?_⟩
    by_cases hsearch : name = "search"
    · subst hsearch
      exact .some (.refl _)
    · rw [BTreeMap.get?_insert, if_neg hsearch, Std.ExtTreeMap.getElem?_empty]
      have hax : "ax" ≠ name := Ne.symm hname
      simp [Json.lookup, Ne.symm hsearch, hax]

/-- The server `ax` is written, removed and written again. -/
theorem mcp_servers_merged_other :
    let m := { Machine.idleSince ∅ with document := fun _ => some sharedFile }
    let calls := [McpCall.write "w" "/run/ax.sock" none "/bin/ax", .remove,
      .write "w" "/run/ax.sock" none "/bin/ax"]
    KeepsServers sharedFile (fileValue ((McpCall.after Machine.exec "/w" calls m).document
      (Machine.locate (Path.join "/w" McpConfig.file)))) := by
  intro m calls
  have hwritten : McpCall.allWritten Machine.exec "/w" calls m = true := by decide +kernel
  exact ((mcp_servers_merged_iff (Machine.holdsFile_exec _) hwritten).1 mergeable_sharedFile).1

def richFile : Json :=
  .obj [("inputs", .arr []), ("mcpServers", .obj [("search", .obj [("command", .str "npx"),
    ("args", .arr []), ("env", .obj [("KEY", .str "1")])])])]

/-- One call of each kind loses the environment of the server and the other member. -/
theorem mcp_servers_lost : let m := { Machine.idleSince ∅ with document := fun _ => some richFile }
    let calls := [McpCall.write "w" "/run/ax.sock" none "/bin/ax", .remove]
    let left := fileValue ((McpCall.after Machine.exec "/w" calls m).document
      (Machine.locate (Path.join "/w" McpConfig.file)))
    ((server? "search" richFile).bind (Json.member? "env")).isSome = true ∧
      ((server? "search" left).bind (Json.member? "env")).isSome = false ∧
      (richFile.member? "inputs").isSome = true ∧ (left.member? "inputs").isSome = false := by
  decide +kernel

end Ax.Workspaces
