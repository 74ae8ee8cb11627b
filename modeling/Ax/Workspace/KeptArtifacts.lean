import Ax.Workspace.Convergence
import Ax.Workspace.Layout

/-!
# Files of workspaces after a pass

A pass writes the files of a workspace when it visits the workspace, and it sets up and cleans up
other entries later.  A shared directory has room for one server and one section only, and the
directory of a dropped workspace is cleaned up after its new owner was set up in it.  So what was
written is there at the end if and only if no entry that is really set up or cleaned up later
uses the same directory.

Main results:

- Theorems `harms_*`: what each part of a pass takes from the files of a directory.
- Theorem `artifacts_survive_iff`: a workspace that was not blocked has its files after a pass if
  and only if no later entry takes its directory.
- Theorem `artifacts_lost_sharedDir`: two workspaces with one directory.
-/

namespace Ax.Workspaces

open Prog (ask raise within whenever)
open Fallible

/-- The entry of ax in what was read. -/
def McpConfig.server : Except Config.IoError (Except String Json) → Option McpServerEntry
  | .ok (.ok document) =>
    (codec.decode document).toOption.bind fun cfg => cfg.mcpServers[axServerKey]?
  | _ => none

def serverAt {σ : Type} (exec : Exec σ) (dir : String) (s : σ) : Option McpServerEntry :=
  McpConfig.server (exec (.readJson (Path.join dir McpConfig.file)) s).1

/-- A workspace has its server and its section in the file of its runtime. -/
structure HasArtifacts {σ : Type} (exec : Exec σ) (host : Host) (setup : Setup) (name : String)
    (workspace : Config.Workspace) (s : σ) : Prop where
  server : serverAt exec workspace.dir s =
    some (McpConfig.axEntry name setup.socketPath setup.configPath setup.axBin)
  managed : ∃ runtime text, Runtime.normalize workspace.runtime = some runtime ∧
    (exec (.readText (Path.join workspace.dir runtime.instructionFile)) s).1 = .ok text ∧
    (Instructions.axSection host.texts name workspace.instructions).toList <:+: text.toList

section Files

variable {σ : Type} {exec : Exec σ} {layout : Layout} {s t : σ} {l : List Cmd} {host : Host}
  {setup : Setup} {name dir dir' : String} {workspace : Config.Workspace} {ε α : Type}
  {p : Action ε α} {r : Except ε α}

/-- What ax keeps in a directory reads the same. -/
def SameFiles (exec : Exec σ) (dir : String) (s t : σ) : Prop :=
  ∀ path, IsArtifact dir path → (exec (.readJson path) t).1 = (exec (.readJson path) s).1 ∧
    (exec (.readText path) t).1 = (exec (.readText path) s).1

lemma sameFiles_of_uses (hexec : KeepsFiles exec layout) (hp : Uses (layout.Spares dir) p)
    (h : Runs exec p s r t l) : SameFiles exec dir s t := by
  refine hp.invariant (I := SameFiles exec dir s) (fun c u hc hu path hpath => ?_) h
    fun _ _ => ⟨rfl, rfl⟩
  rw [hexec.readJson_kept c u path (hc path hpath), hexec.readText_kept c u path (hc path hpath)]
  exact hu path hpath

lemma SameFiles.symm (h : SameFiles exec dir s t) : SameFiles exec dir t s :=
  fun path hpath => ⟨(h path hpath).1.symm, (h path hpath).2.symm⟩

lemma SameFiles.serverAt_eq (h : SameFiles exec dir s t) :
    serverAt exec dir t = serverAt exec dir s :=
  congrArg McpConfig.server (h _ (.inl rfl)).1

lemma HasArtifacts.of_sameFiles (h : SameFiles exec workspace.dir s t)
    (hs : HasArtifacts exec host setup name workspace s) :
    HasArtifacts exec host setup name workspace t := by
  obtain ⟨hserver, runtime, text, hruntime, htext, hsection⟩ := hs
  refine ⟨h.serverAt_eq.trans hserver, runtime, text, hruntime, ?_, hsection⟩
  rw [(h _ (.inr ⟨runtime, rfl⟩)).2, htext]

lemma serverAt_congr (hexec : KeepsFiles exec layout)
    (h : layout.locate dir = layout.locate dir') : serverAt exec dir s = serverAt exec dir' s :=
  congrArg McpConfig.server
    (hexec.readJson_at s _ _ (by rw [layout.locate_mcpConfig, layout.locate_mcpConfig, h]))

lemma serverAt_of_writeMcpConfig (hexec : StoresDocuments exec) {socketPath axBin : String}
    {configPath : Option String}
    (h : Runs exec (writeMcpConfig dir name socketPath configPath axBin) s (.ok ()) t l) :
    serverAt exec dir t = some (McpConfig.axEntry name socketPath configPath axBin) := by
  obtain ⟨document, s₁, l₁, l₂, -, h₁, rfl⟩ := runs_bind_ok.mp h
  obtain ⟨cfg, s₂, l₃, l₄, -, h₂, rfl⟩ := runs_bind_ok.mp h₁
  obtain ⟨written, s₃, l₅, l₆, hwrite, hraise, rfl⟩ := runs_bind_ok.mp h₂
  obtain ⟨hwritten, rfl, rfl⟩ := runs_ask.mp hwrite
  obtain ⟨hok, rfl, rfl⟩ := runs_raise_ok.mp hraise
  rw [serverAt, hexec _ _ s₂ ((Except.ok.inj hwritten) ▸ hok), McpConfig.server,
    McpConfig.codec.decode_encode]
  exact BTreeMap.get?_insert_self ..

lemma McpConfig.server_of_toClean {path : String}
    {answer : Except Config.IoError (Except String Json)} (h : toClean path answer = .ok none) :
    server answer = none := by
  rcases answer with e | e | document
  · rfl
  · rfl
  · have hdecode : (codec.decode document).toOption = none := Except.ok.inj h
    rw [server, hdecode]
    rfl

lemma serverAt_of_removeMcpConfig (hexec : KeepsFiles exec layout)
    (h : Runs exec (removeMcpConfig dir) s (.ok ()) t l) : serverAt exec dir t = none := by
  obtain ⟨answer, s₁, l₁, l₂, hread, h₁, rfl⟩ := runs_bind_ok.mp h
  obtain ⟨hanswer, rfl, rfl⟩ := runs_ask.mp hread
  obtain ⟨found, s₂, l₃, l₄, hraised, h₂, rfl⟩ := runs_bind_ok.mp h₁
  obtain ⟨hfound, rfl, rfl⟩ := runs_raise_ok.mp hraised
  cases found with
  | none =>
    obtain ⟨-, rfl, -⟩ := runs_pure_ok.mp h₂
    rw [serverAt, hexec.readJson_kept _ _ _ id, ← Except.ok.inj hanswer]
    exact McpConfig.server_of_toClean hfound
  | some cfg =>
    dsimp only at h₂
    split at h₂
    all_goals
      obtain ⟨done, s₃, l₅, l₆, hask, hraise, rfl⟩ := runs_bind_ok.mp h₂
      obtain ⟨hdone, rfl, rfl⟩ := runs_ask.mp hask
      obtain ⟨hok, rfl, rfl⟩ := runs_raise_ok.mp hraise
      rw [Except.ok.inj hdone] at hok
    · obtain ⟨e, hgone⟩ := hexec.removed (.removeFile _) _ _ hok rfl
      rw [serverAt, hgone]
      rfl
    · rw [serverAt, hexec.storesDocuments _ _ _ hok, McpConfig.server,
        McpConfig.codec.decode_encode]
      exact (BTreeMap.get?_erase ..).trans (if_pos rfl)

lemma axSection_infix {target axSection content : String}
    {existing : Except Config.IoError String}
    (h : Instructions.contentOf target axSection existing = .ok content) :
    axSection.toList <:+: content.toList := by
  unfold Instructions.contentOf at h
  split at h
  · obtain rfl := Except.ok.inj h
    unfold Instructions.spliceManagedSection
    split
    all_goals
      rw [String.toList_append, String.toList_append]
      exact List.infix_append _ _ _
  · split at h
    · obtain rfl := Except.ok.inj h
      rw [String.toList_append]
      exact (List.prefix_append _ _).isInfix
    · cases h

lemma serverAt_of_instructions (hexec : KeepsFiles exec layout)
    (hp : Uses (fun c => ∃ path, c.file? = some path ∧ IsInstructionFile dir' path) p)
    (h : Runs exec p s r t l) : serverAt exec dir t = serverAt exec dir s := by
  refine hp.invariant (I := fun u => serverAt exec dir u = serverAt exec dir s)
    (fun c u hc hu => ?_) h rfl
  obtain ⟨path, hfile, runtime, rfl⟩ := hc
  have hne : layout.locate (Path.join dir McpConfig.file) ≠
      layout.locate (Path.join dir' runtime.instructionFile) := by
    rw [layout.locate_mcpConfig, layout.locate_join dir' _ (by cases runtime <;> decide)]
    intro heq
    cases runtime <;> exact absurd (Layout.last_eq heq) (by decide)
  rw [← hu, serverAt, hexec.readJson_kept c u _ ?_]
  · rfl
  · cases c <;> cases hfile
    all_goals first | exact hne | exact id

lemma managed_of_writeInstructions (hexec : KeepsFiles exec layout)
    {dir workspace custom : String} {runtime : Runtime}
    (h : Runs exec (writeInstructions host.texts dir workspace runtime.asStr custom) s (.ok ()) t
      l) :
    ∃ text, (exec (.readText (Path.join dir runtime.instructionFile)) t).1 = .ok text ∧
      (Instructions.axSection host.texts workspace custom).toList <:+: text.toList := by
  obtain ⟨known, s₁, l₁, l₂, hraised, h₁, rfl⟩ := runs_bind_ok.mp h
  obtain ⟨hknown, rfl, rfl⟩ := runs_raise_ok.mp hraised
  rw [Runtime.normalize_asStr] at hknown
  obtain rfl := Except.ok.inj hknown
  obtain ⟨_, s₂, l₃, l₄, -, h₂, rfl⟩ := runs_bind_ok.mp h₁
  obtain ⟨existing, s₃, l₅, l₆, -, h₃, rfl⟩ := runs_bind_ok.mp h₂
  obtain ⟨content, s₄, l₇, l₈, hspliced, h₄, rfl⟩ := runs_bind_ok.mp h₃
  obtain ⟨hcontent, rfl, rfl⟩ := runs_raise_ok.mp hspliced
  obtain ⟨written, s₅, l₉, l₁₀, hwrite, hraise, rfl⟩ := runs_bind_ok.mp h₄
  obtain ⟨hwritten, rfl, rfl⟩ := runs_ask.mp hwrite
  obtain ⟨hok, rfl, rfl⟩ := runs_raise_ok.mp hraise
  exact ⟨content, hexec.storesTexts _ _ _ ((Except.ok.inj hwritten) ▸ hok),
    axSection_infix hcontent⟩

lemma normalize_of_runtimeForName {name : String} {runtime : Runtime}
    (h : runtimeForName name = .ok runtime) : Runtime.normalize name = some runtime := by
  unfold runtimeForName at h
  cases hnormal : Runtime.normalize name with
  | none => rw [hnormal] at h; cases h
  | some known => rw [hnormal] at h; rw [Except.ok.inj h]

lemma hasArtifacts_of_ensureArtifacts (hexec : KeepsFiles exec layout)
    (h : Runs exec (ensureArtifacts host setup name workspace) s (.ok ()) t l) :
    HasArtifacts exec host setup name workspace t := by
  obtain ⟨runtime, s₁, l₁, l₂, hraised, h₁, rfl⟩ := runs_bind_ok.mp h
  obtain ⟨hruntime, rfl, rfl⟩ := runs_raise_ok.mp hraised
  obtain ⟨made, s₂, l₃, l₄, -, h₂, rfl⟩ := runs_bind_ok.mp h₁
  obtain ⟨_, s₃, l₅, l₆, -, h₃, rfl⟩ := runs_bind_ok.mp h₂
  obtain ⟨_, s₄, l₇, l₈, hmcp, h₄, rfl⟩ := runs_bind_ok.mp h₃
  obtain ⟨_, s₅, l₉, l₁₀, hinstructions, h₅, rfl⟩ := runs_bind_ok.mp h₄
  have hserver := (serverAt_of_instructions hexec (uses_writeInstructions ..)
    (runs_within_ok.mp hinstructions)).trans
    (serverAt_of_writeMcpConfig hexec.storesDocuments (runs_within_ok.mp hmcp))
  obtain ⟨text, htext, hsection⟩ :=
    managed_of_writeInstructions hexec (runs_within_ok.mp hinstructions)
  refine HasArtifacts.of_sameFiles (sameFiles_of_uses hexec (uses_whenever fun _ => ?_) h₅)
    ⟨hserver, runtime, text, normalize_of_runtimeForName hruntime, htext, hsection⟩
  exact uses_bind (uses_ask Layout.spares_prepareCodexHome) fun _ => uses_raise _ _

lemma spares_destroyIfLive {wrap : Tmux.TmuxError → ε} :
    Uses (layout.Spares dir) (destroyIfLive wrap name) :=
  uses_bind (uses_ask fun _ _ => id) fun _ => uses_whenever fun _ =>
    uses_bind (uses_ask fun _ _ => id) fun _ => uses_raise _ _

lemma spares_createSession (dir : String) {wrap : Tmux.TmuxError → ε} {dir' : String}
    {launch : Launch} {env : BTreeMap String String} :
    Uses (layout.Spares dir) (do
      let created ← ask (Cmd.createSession name dir' launch env)
      raise wrap created : Action ε Unit) :=
  uses_bind (uses_ask fun _ _ => id) fun _ => uses_raise _ _

lemma spares_startSession (dir dir' session : String) (launch : Launch)
    (env : BTreeMap String String) :
    Uses (layout.Spares dir) (do
      let live : Bool ← ask (Cmd.sessionExists name)
      if live then throw (.sessionExists session)
      else do
        let created ← ask (Cmd.createSession name dir' launch env)
        raise .tmux created : Action WorkspaceError Unit) := by
  refine uses_bind (uses_ask fun _ _ => id) fun found => ?_
  split
  · exact uses_throw _
  · exact spares_createSession dir

lemma hasArtifacts_of_createInner (hexec : KeepsFiles exec layout) {fresh : Bool}
    (h : Runs exec (Manager.createInner host setup name workspace fresh) s (.ok ()) t l) :
    HasArtifacts exec host setup name workspace t := by
  obtain ⟨runtime, s₁, l₁, l₂, -, h₁, rfl⟩ := runs_bind_ok.mp h
  obtain ⟨_, s₂, l₃, l₄, hensure, h₂, rfl⟩ := runs_bind_ok.mp h₁
  exact (hasArtifacts_of_ensureArtifacts hexec hensure).of_sameFiles
    (sameFiles_of_uses hexec (spares_startSession ..) h₂)

end Files

/-! ## What is taken from a directory -/

section Harms

variable {σ : Type} {exec : Exec σ} {layout : Layout} {s t u : σ} {l : List Cmd} {host : Host}
  {setup : Setup} {dir other : String} {server : McpServerEntry} {ε δ α β κ : Type}
  {takes takes' touches touches' : Prop}

/-- Between two states the files of a directory are kept, unless `touches`; if `takes`, the
server is not there in the end. -/
structure Leaves (exec : Exec σ) (dir : String) (server : McpServerEntry) (takes touches : Prop)
    (s t : σ) : Prop where
  kept : ¬touches → SameFiles exec dir s t
  lost : takes ∨ serverAt exec dir s ≠ some server → serverAt exec dir t ≠ some server

/-- Whenever the program succeeds, this is what it leaves. -/
def Harms (exec : Exec σ) (dir : String) (server : McpServerEntry) (takes touches : Prop)
    (p : Action ε α) : Prop :=
  ∀ s a t l, Runs exec p s (.ok a) t l → Leaves exec dir server takes touches s t

/-- The program takes what it touches. -/
abbrev Takes (exec : Exec σ) (dir : String) (server : McpServerEntry) (takes : Prop)
    (p : Action ε α) : Prop :=
  Harms exec dir server takes takes p

lemma Leaves.trans (h : Leaves exec dir server takes touches s t)
    (h' : Leaves exec dir server takes' touches' t u) :
    Leaves exec dir server (takes ∨ takes') (touches ∨ touches') s u where
  kept hspared path hpath := by
    obtain ⟨hspared, hspared'⟩ := not_or.mp hspared
    have hst := h.kept hspared path hpath
    have htu := h'.kept hspared' path hpath
    exact ⟨htu.1.trans hst.1, htu.2.trans hst.2⟩
  lost := by
    rintro ((htakes | htakes) | hlost)
    · exact h'.lost (.inr (h.lost (.inl htakes)))
    · exact h'.lost (.inl htakes)
    · exact h'.lost (.inr (h.lost (.inr hlost)))

lemma Leaves.imp (h : Leaves exec dir server takes touches s t) (htakes : takes' → takes)
    (htouches : touches → touches') : Leaves exec dir server takes' touches' s t :=
  ⟨fun hspared => h.kept (mt htouches hspared), fun hlost => h.lost (hlost.imp_left htakes)⟩

variable {p : Action ε α}

lemma Harms.imp (h : Harms exec dir server takes touches p) (htakes : takes' → takes)
    (htouches : touches → touches') : Harms exec dir server takes' touches' p :=
  fun s a t l hrun => (h s a t l hrun).imp htakes htouches

variable {f : α → Action ε β}

lemma harms_bind (hp : Harms exec dir server takes touches p)
    (hf : ∀ a, Harms exec dir server takes' touches' (f a)) :
    Harms exec dir server (takes ∨ takes') (touches ∨ touches') (p >>= f) := by
  intro s b u l h
  obtain ⟨a, t, l₁, l₂, hrun, hrun', -⟩ := runs_bind_ok.mp h
  exact (hp s a t l₁ hrun).trans (hf a t b u l₂ hrun')

lemma harms_raise_bind {wrap : δ → ε} {x : Except δ α}
    (hf : ∀ a, x = .ok a → Harms exec dir server takes touches (f a)) :
    Harms exec dir server takes touches (raise wrap x >>= f) := by
  intro s b u l h
  obtain ⟨a, t, l₁, l₂, hraise, hrun, -⟩ := runs_bind_ok.mp h
  obtain ⟨hx, rfl, -⟩ := runs_raise_ok.mp hraise
  exact hf a hx _ b u l₂ hrun

lemma harms_within {wrap : δ → ε} {p : Action δ α}
    (hp : Harms exec dir server takes touches p) :
    Harms exec dir server takes touches (within wrap p) :=
  fun s a t l h => hp s a t l (runs_within_ok.mp h)

lemma harms_whenever {b : Bool} {p : Action ε Unit}
    (hp : Harms exec dir server takes touches p) :
    Harms exec dir server (b = true ∧ takes) (b = true ∧ touches) (whenever b p) := by
  intro s a t l h
  rcases runs_whenever.mp h with ⟨hb, h⟩ | ⟨hb, -, rfl, -⟩
  · exact (hp s a t l h).imp And.right fun htouches => ⟨hb, htouches⟩
  · refine ⟨fun _ _ _ => ⟨rfl, rfl⟩, fun hlost => hlost.resolve_left fun htakes => ?_⟩
    exact Bool.false_ne_true (hb.symm.trans htakes.1)

lemma leaves_of_traverse {f : κ → Action ε β} {hits : κ → Prop} {xs : List κ}
    (hf : ∀ x ∈ xs, Takes exec dir server (hits x) (f x)) {ys : List (κ × β)}
    (h : Runs exec (Fallible.traverse f xs) s (.ok ys) u l) :
    Leaves exec dir server (∃ x ∈ xs, hits x) (∃ x ∈ xs, hits x) s u := by
  induction xs generalizing s ys l with
  | nil =>
    obtain ⟨-, rfl, -⟩ := runs_pure_ok.mp h
    exact ⟨fun _ _ _ => ⟨rfl, rfl⟩, by simp⟩
  | cons x xs ih =>
    obtain ⟨y, t, l₁, rest, l₂, hfirst, hrest, -, -⟩ := runs_traverse_cons.mp h
    have hleaves := (hf x List.mem_cons_self _ _ _ _ hfirst).trans
      (ih (fun x hx => hf x (List.mem_cons_of_mem _ hx)) hrest)
    exact hleaves.imp (by simp) (by simp)

variable (hexec : KeepsFiles exec layout)
include hexec

lemma harms_of_spares (hp : Uses (layout.Spares dir) p) : Harms exec dir server False False p := by
  intro s a t l h
  have hsame := sameFiles_of_uses hexec hp h
  exact ⟨fun _ => hsame, fun hlost => hsame.serverAt_eq ▸ hlost.resolve_left id⟩

lemma harms_skip (hp : Uses (layout.Spares dir) p)
    (hf : ∀ a, Harms exec dir server takes touches (f a)) :
    Harms exec dir server takes touches (p >>= f) :=
  (harms_bind (harms_of_spares hexec hp) hf).imp .inr (Or.resolve_left · id)

lemma harms_then (hp : Harms exec dir server takes touches p)
    (hf : ∀ a, Uses (layout.Spares dir) (f a)) : Harms exec dir server takes touches (p >>= f) :=
  (harms_bind hp fun a => harms_of_spares hexec (hf a)).imp .inl (Or.resolve_right · id)

lemma harms_of_lost
    (hlost : takes → ∀ s a t l, Runs exec p s (.ok a) t l → serverAt exec dir t ≠ some server)
    (hspares : ¬takes → Uses (layout.Spares dir) p) : Takes exec dir server takes p := by
  by_cases htakes : takes
  · exact fun s a t l h => ⟨fun hspared => absurd htakes hspared, fun _ => hlost htakes s a t l h⟩
  · exact (harms_of_spares hexec (hspares htakes)).imp htakes False.elim

lemma harms_writeMcpConfig {name socketPath : String} {configPath : Option String}
    {axBin : String} (hne : server ≠ McpConfig.axEntry name socketPath configPath axBin) :
    Takes exec dir server (layout.locate other = layout.locate dir)
      (writeMcpConfig other name socketPath configPath axBin) := by
  refine harms_of_lost hexec (fun hat s a t l h hserver => hne ?_) fun hne => ?_
  · rw [← serverAt_congr hexec hat, serverAt_of_writeMcpConfig hexec.storesDocuments h] at hserver
    exact (Option.some.inj hserver).symm
  · exact (uses_writeMcpConfig ..).mono fun c hc => Layout.spares_of_file hne hc (.inl rfl)

lemma harms_removeMcpConfig :
    Takes exec dir server (layout.locate other = layout.locate dir) (removeMcpConfig other) := by
  refine harms_of_lost hexec (fun hat s a t l h hserver => ?_) fun hne => ?_
  · rw [← serverAt_congr hexec hat, serverAt_of_removeMcpConfig hexec h] at hserver
    cases hserver
  · exact (uses_removeMcpConfig _).mono fun c hc => Layout.spares_of_file hne hc (.inl rfl)

lemma harms_of_instructions (other : String)
    (hp : Uses (fun c => ∃ path, c.file? = some path ∧ IsInstructionFile other path) p) :
    Harms exec dir server False (layout.locate other = layout.locate dir) p := by
  intro s a t l h
  refine ⟨fun hne => sameFiles_of_uses hexec (hp.mono fun c hc => ?_) h, fun hlost => ?_⟩
  · obtain ⟨path, hfile, hpath⟩ := hc
    exact Layout.spares_of_file hne hfile (.inr hpath)
  · exact serverAt_of_instructions hexec hp h ▸ hlost.resolve_left id

lemma harms_removal {c : Cmd} {f : c.Answer → Action ε α}
    (hremoved : ∀ s a t l, Runs exec (f (exec c s).1) (exec c s).2 (.ok a) t l →
      c.Removed (exec c s).1)
    (hf : ∀ answer, Uses (layout.Spares dir) (f answer))
    (htouches : takes → layout.Touches c (layout.locate dir ++ [McpConfig.file]))
    (hspares : ¬takes → layout.Spares dir c) :
    Takes exec dir server takes (ask c >>= f) := by
  refine harms_of_lost hexec (fun htakes s a t l h => ?_) fun hspared =>
    uses_bind (uses_ask (hspares hspared)) hf
  obtain ⟨l', hrest, -⟩ := runs_ask_bind.mp h
  obtain ⟨e, hgone⟩ := hexec.removed c s (Path.join dir McpConfig.file) (hremoved s a t l' hrest)
    (layout.locate_mcpConfig dir ▸ htouches htakes)
  rw [(sameFiles_of_uses hexec (hf _) hrest).serverAt_eq, serverAt, hgone]
  nofun

variable {name : String}

lemma harms_removeCodexHome {wrap : String → ε} :
    Takes exec dir server (layout.codexHome name other <+: layout.locate dir) (do
        let removed ← ask (Cmd.removeCodexHome name other)
        raise wrap removed : Action ε Unit) :=
  harms_removal hexec (fun _ _ _ _ h => (runs_raise_ok.mp h).1) (fun _ => uses_raise _ _)
    (fun hbelow => hbelow.trans (List.prefix_append _ _)) Layout.spares_removeCodexHome

/-- A workspace that is set up takes its directory. -/
theorem harms_ensureArtifacts {workspace : Config.Workspace}
    (hne : server ≠ McpConfig.axEntry name setup.socketPath setup.configPath setup.axBin) :
    Takes exec dir server (layout.locate workspace.dir = layout.locate dir)
      (ensureArtifacts host setup name workspace) := by
  refine harms_skip hexec (uses_raise _ _) fun runtime => ?_
  refine harms_skip hexec (uses_ask fun _ _ => id) fun _ => ?_
  refine harms_skip hexec (uses_raise _ _) fun _ => ?_
  refine (harms_bind (harms_within (harms_writeMcpConfig hexec hne)) fun _ =>
    harms_then hexec (harms_within (harms_of_instructions hexec _ (uses_writeInstructions ..)))
      fun _ => uses_whenever fun _ => ?_).imp .inl (or_self_iff.mp ·)
  exact uses_bind (uses_ask Layout.spares_prepareCodexHome) fun _ => uses_raise _ _

lemma harms_create {workspace : Config.Workspace}
    (hne : server ≠ McpConfig.axEntry name setup.socketPath setup.configPath setup.axBin) :
    Takes exec dir server (layout.locate workspace.dir = layout.locate dir)
      (Manager.create host setup name workspace) :=
  harms_skip hexec (uses_raise _ _) fun _ =>
    harms_then hexec (harms_ensureArtifacts hexec hne) fun _ => spares_startSession ..

/-- What is taken when a workspace is cleaned up. -/
theorem harms_cleanupWorkspaceState :
    Takes exec dir server (layout.Clears name other dir) (cleanupWorkspaceState name other) := by
  refine harms_skip hexec spares_destroyIfLive fun _ => ?_
  unfold cleanupWorkspaceArtifacts
  refine (harms_whenever (harms_bind (harms_within (harms_removeMcpConfig hexec)) fun _ =>
    harms_bind (harms_within (harms_of_instructions hexec _ (uses_removeInstructions _))) fun _ =>
      harms_removeCodexHome hexec)).imp ?_ ?_
  · rintro ⟨hdir, hat | hbelow⟩
    · exact ⟨decide_eq_true hdir, .inl hat⟩
    · exact ⟨decide_eq_true hdir, .inr (.inr hbelow)⟩
  · rintro ⟨hdir, hat | hat | hbelow⟩
    · exact ⟨of_decide_eq_true hdir, .inl hat⟩
    · exact ⟨of_decide_eq_true hdir, .inl hat⟩
    · exact ⟨of_decide_eq_true hdir, .inr hbelow⟩

/-- An orchestrator that is set up takes its directory. -/
theorem harms_ensureOrchestrator {node : Config.ProjectNode} {parentName orchDir : String}
    {start : Bool} (hdir : orchestratorDirForNode host.home node = .ok orchDir)
    (hne : server ≠ McpConfig.axEntry (orchestratorName node.prefix_) setup.socketPath
      setup.configPath setup.axBin) :
    Takes exec dir server (layout.locate orchDir = layout.locate dir)
      (ensureOrchestrator host setup node parentName start) := by
  refine harms_raise_bind fun orchDir' hdir' => ?_
  obtain rfl := Except.ok.inj (hdir.symm.trans hdir')
  refine harms_skip hexec (uses_raise _ _) fun runtime => harms_then hexec ?_ fun _ => ?_
  · refine harms_skip hexec (uses_ask fun _ _ => id) fun _ => ?_
    refine harms_skip hexec (uses_raise _ _) fun _ => ?_
    refine harms_skip hexec (uses_ask fun _ _ => id) fun _ => ?_
    refine harms_skip hexec (uses_raise _ _) fun _ => ?_
    refine (harms_bind (harms_within (harms_writeMcpConfig hexec hne)) fun _ =>
      harms_skip hexec (uses_whenever fun _ => ?_) fun _ => harms_within ?_).imp
        (.inl (b := False)) (or_self_iff.mp ·)
    · exact uses_bind (uses_ask Layout.spares_prepareCodexHome) fun _ => uses_raise _ _
    · refine harms_skip hexec (uses_raise _ _) fun runtimeEnum => ?_
      refine harms_skip hexec (uses_ask fun _ _ => id) fun _ => harms_of_instructions hexec _ ?_
      refine uses_bind (uses_traverse fun runtime _ => ?_) fun _ => ?_
      · exact uses_bind (uses_ask ⟨_, rfl, runtime, rfl⟩) fun _ => uses_raise _ _
      · exact uses_bind (uses_ask ⟨_, rfl, runtimeEnum, rfl⟩) fun _ => uses_raise _ _
  · refine uses_whenever fun _ => uses_bind (uses_ask fun _ _ => id) fun _ => ?_
    exact uses_whenever fun _ => spares_createSession dir

/-- What is taken when an orchestrator is cleaned up. -/
theorem harms_cleanupOrchestratorState :
    Takes exec dir server (layout.OrchestratorClears name other dir)
      (cleanupOrchestratorState name other) := by
  refine harms_skip hexec spares_destroyIfLive fun _ => ?_
  unfold cleanupOrchestratorArtifacts
  refine (harms_bind (harms_whenever (harms_bind (harms_within (harms_removeMcpConfig hexec))
    fun _ => harms_bind (harms_of_instructions hexec other ?_) fun _ => harms_removal hexec ?_ ?_ ?_
      Layout.spares_removeClaudeDir)) fun _ => harms_removeCodexHome hexec).imp ?_ ?_
  · refine uses_traverse fun runtime _ => ?_
    exact uses_bind (uses_ask ⟨_, rfl, runtime, rfl⟩) fun _ => uses_raise _ _
  · intro s a t l h
    obtain ⟨_, _, _, _, hraise, -⟩ := runs_bind_ok.mp h
    exact (runs_raise_ok.mp hraise).1
  · refine fun _ => uses_bind (uses_raise _ _) fun _ => uses_bind (uses_ask fun _ _ => id) ?_
    rintro (e | count)
    · dsimp only
      split
      · exact uses_pure _
      · exact uses_throw _
    · refine uses_whenever fun _ => uses_bind (uses_ask fun _ _ => id) fun _ => uses_raise _ _
  · intro hbelow
    rw [Layout.Touches, claudeDir, layout.locate_join other ".claude" (by decide)]
    exact hbelow.trans (List.prefix_append _ _)
  · rintro (⟨hdir, hat | hbelow⟩ | hbelow)
    · exact .inl ⟨decide_eq_true hdir, .inl hat⟩
    · exact .inl ⟨decide_eq_true hdir, .inr (.inr hbelow)⟩
    · exact .inr hbelow
  · rintro (⟨hdir, hat | hat | hbelow⟩ | hbelow)
    · exact .inl ⟨of_decide_eq_true hdir, .inl hat⟩
    · exact .inl ⟨of_decide_eq_true hdir, .inl hat⟩
    · exact .inl ⟨of_decide_eq_true hdir, .inr hbelow⟩
    · exact .inr hbelow

end Harms

/-! ## A pass -/

namespace Pass

section Takes

variable (layout : Layout) (pass : Pass) (dir other : String)

/-- An entry that matches its record is set up, and any other one is cleaned up and set up unless
that is blocked. -/
def VisitTakes (matches_ : Bool) (clears setsUp : Prop) : Prop :=
  if matches_ then setsUp else pass.blocked other = none ∧ (clears ∨ setsUp)

/-- The visit of a desired workspace takes a directory. -/
def WorkspaceTakes (entry : DesiredWorkspace) : Prop :=
  let record := desiredWorkspaceState entry pass.desired
  pass.VisitTakes other (pass.workspaceMatches other record)
    (layout.Clears other (pass.workspaceCleanupDir other record) dir)
    (layout.locate entry.workspace.dir = layout.locate dir)

/-- The visit of a desired orchestrator takes a directory. -/
def OrchestratorTakes (entry : DesiredOrchestrator) : Prop :=
  let record := desiredOrchestratorState entry
  pass.VisitTakes other (entry.root || pass.orchestratorMatches other record)
    (layout.OrchestratorClears other (pass.orchestratorCleanupDir other record) dir)
    (layout.locate entry.artifactDir = layout.locate dir)

/-- An entry that a pass visits after a workspace takes a directory: a desired workspace with a
later name, a dropped one, an orchestrator or a dropped one. -/
def TakesLater (name : String) : Prop :=
  (∃ entry ∈ pass.desired.workspaces.toList, compare name entry.1 = .lt ∧
    pass.WorkspaceTakes layout dir entry.1 entry.2) ∨
  (∃ entry ∈ pass.droppedWorkspaces, pass.blocked entry.1 = none ∧
    layout.Clears entry.1 entry.2.dir dir) ∨
  (∃ entry ∈ pass.desired.orchestrators.toList,
    pass.OrchestratorTakes layout dir entry.1 entry.2) ∨
  ∃ entry ∈ pass.droppedOrchestrators, pass.blocked entry.1 = none ∧
    layout.OrchestratorClears entry.1 entry.2.artifactDir dir

end Takes

section Visits

variable {σ : Type} {exec : Exec σ} {layout : Layout} {s t : σ} {l : List Cmd} {pass : Pass}
  {name dir other : String} {server : McpServerEntry}

lemma TakesLater.of_blocked {sessions : BTreeMap String SessionSnapshot}
    (h : pass.TakesLater layout dir name)
    (hblocked : ∀ other ∈ desiredSessionNames pass.previous pass.desired,
      pass.blocked other = { pass with sessions }.blocked other) :
    { pass with sessions }.TakesLater layout dir name := by
  simp only [mem_desiredSessionNames] at hblocked
  rcases h with ⟨entry, hmem, hlt, h⟩ | ⟨entry, hmem, hfree, h⟩ | ⟨entry, hmem, h⟩ |
    ⟨entry, hmem, hfree, h⟩
  · rw [WorkspaceTakes, VisitTakes,
      hblocked _ (.inr (.inr (.inl (BTreeMap.mem_of_mem_toList hmem))))] at h
    exact .inl ⟨entry, hmem, hlt, h⟩
  · rw [hblocked _ (.inl (BTreeMap.mem_of_mem_toList (List.mem_filter.mp hmem).1))] at hfree
    exact .inr (.inl ⟨entry, hmem, hfree, h⟩)
  · rw [OrchestratorTakes, VisitTakes,
      hblocked _ (.inr (.inr (.inr (BTreeMap.mem_of_mem_toList hmem))))] at h
    exact .inr (.inr (.inl ⟨entry, hmem, h⟩))
  · rw [hblocked _ (.inr (.inl (BTreeMap.mem_of_mem_toList (List.mem_filter.mp hmem).1)))] at hfree
    exact .inr (.inr (.inr ⟨entry, hmem, hfree, h⟩))

lemma takesLater_iff {sessions : BTreeMap String SessionSnapshot}
    (hblocked : ∀ other ∈ desiredSessionNames pass.previous pass.desired,
      pass.blocked other = { pass with sessions }.blocked other) :
    pass.TakesLater layout dir name ↔ { pass with sessions }.TakesLater layout dir name := by
  constructor
  · exact fun h => h.of_blocked hblocked
  · exact fun h => @TakesLater.of_blocked layout { pass with sessions } name dir pass.sessions h
      fun other hother => (hblocked other hother).symm

variable (hexec : KeepsFiles exec layout)
include hexec

lemma harms_visit {ρ : Type} {kind : TargetKind} {prev : Option ρ} {record : ρ} {matches_ : Bool}
    {refresh : Action ReconcileError (List Note)} {redo : Action ReconcileError String}
    {clears setsUp : Prop} (hrefresh : Takes exec dir server setsUp refresh)
    (hredo : Takes exec dir server (clears ∨ setsUp) redo) :
    Takes exec dir server (pass.VisitTakes other matches_ clears setsUp)
      (pass.visit kind other prev record matches_ refresh redo) := by
  unfold visit VisitTakes
  cases matches_ with
  | true => exact harms_then hexec hrefresh fun _ => uses_pure _
  | false =>
    cases pass.blocked other with
    | some reason =>
      exact (harms_of_spares hexec (uses_pure _)).imp (fun h => by cases h.1) False.elim
    | none =>
      exact (harms_then hexec hredo fun _ => uses_pure _).imp And.right fun h => ⟨rfl, h⟩

lemma harms_drop {ρ : Type} {kind : TargetKind} {prev : ρ} {cleanup : Action ReconcileError Unit}
    {clears : Prop} (hcleanup : Takes exec dir server clears cleanup) :
    Takes exec dir server (pass.blocked other = none ∧ clears)
      (pass.drop kind other prev cleanup) := by
  unfold drop
  cases pass.blocked other with
  | some reason =>
    exact (harms_of_spares hexec (uses_pure _)).imp (fun h => by cases h.1) False.elim
  | none =>
    exact (harms_then hexec hcleanup fun _ => uses_pure _).imp And.right fun h => ⟨rfl, h⟩

variable {entry : DesiredWorkspace}

lemma harms_visitWorkspace
    (hne : server ≠ McpConfig.axEntry other pass.setup.socketPath pass.setup.configPath
      pass.setup.axBin) :
    Takes exec dir server (pass.WorkspaceTakes layout dir other entry)
      (pass.visitWorkspace other entry) := by
  have hensure : ∀ missing {β : Type} {b : β}, Takes exec dir server
      (layout.locate entry.workspace.dir = layout.locate dir) (do
        within .workspace (ensureArtifacts pass.host pass.setup other entry.workspace)
        whenever missing
          (within .workspace (Manager.create pass.host pass.setup other entry.workspace))
        return b : Action ReconcileError β) := by
    intro missing β b
    refine (harms_bind (harms_within (harms_ensureArtifacts hexec hne)) fun _ => harms_then hexec
      (harms_whenever (harms_within (harms_create hexec hne))) fun _ => uses_pure _).imp .inl ?_
    rintro (hat | ⟨-, hat⟩)
    all_goals exact hat
  exact harms_visit hexec (hensure _)
    (harms_bind (harms_within (harms_cleanupWorkspaceState hexec)) fun _ => hensure _)

lemma harms_visitOrchestrator {entry : DesiredOrchestrator}
    (hentry : entry.WellFormed pass.host other)
    (hne : server ≠ McpConfig.axEntry other pass.setup.socketPath pass.setup.configPath
      pass.setup.axBin) :
    Takes exec dir server (pass.OrchestratorTakes layout dir other entry)
      (pass.visitOrchestrator other entry) := by
  have hensure : ∀ start, Takes exec dir server
      (layout.locate entry.artifactDir = layout.locate dir) (pass.ensureEntry entry start) :=
    fun start => harms_within (harms_ensureOrchestrator hexec hentry.dir_eq
      (hentry.node_name.symm ▸ hne))
  unfold visitOrchestrator OrchestratorTakes
  dsimp only
  cases entry.root with
  | true => exact harms_then hexec (hensure _) fun _ => uses_pure _
  | false =>
    exact harms_visit hexec (harms_then hexec (hensure _) fun _ => uses_pure _)
      (harms_bind (harms_within (harms_cleanupOrchestratorState hexec)) fun _ =>
        harms_then hexec (hensure _) fun _ => uses_pure _)

omit hexec in
lemma axEntry_ne {setup : Setup} (h : name ≠ other) :
    McpConfig.axEntry name setup.socketPath setup.configPath setup.axBin ≠
      McpConfig.axEntry other setup.socketPath setup.configPath setup.axBin := by
  intro heq
  simp [McpConfig.axEntry] at heq
  exact h heq

lemma hasArtifacts_of_visitWorkspace {visit : Visit WorkspaceState}
    (h : Runs exec (pass.visitWorkspace name entry) s (.ok visit) t l) :
    HasArtifacts exec pass.host pass.setup name entry.workspace t ∨
      ∃ change reason, Note.action ⟨.workspace, name, .blocked change, reason⟩ ∈ visit.notes := by
  have hcreated : ∀ {start u v l₁ l₂},
      Runs exec (ensureArtifacts pass.host pass.setup name entry.workspace) u (.ok ()) v l₁ →
      Runs exec (whenever start (within ReconcileError.workspace
        (Manager.create pass.host pass.setup name entry.workspace))) v (.ok ()) t l₂ →
      HasArtifacts exec pass.host pass.setup name entry.workspace t := by
    intro start u v l₁ l₂ hensure hcreate
    rcases runs_whenever.mp hcreate with ⟨-, hcreate⟩ | ⟨-, -, rfl, -⟩
    · exact hasArtifacts_of_createInner hexec (runs_within_ok.mp hcreate)
    · exact hasArtifacts_of_ensureArtifacts hexec hensure
  cases runs_visit h with
  | refreshed _ hrun =>
    obtain ⟨-, u, l₁, l₂, hensure, hcreate⟩ := runs_refreshWorkspace hrun
    exact .inl (hcreated hensure hcreate)
  | blocked => exact .inr ⟨_, _, List.mem_singleton_self _⟩
  | redone _ _ hrun =>
    obtain ⟨u, v, l₁, l₂, l₃, -, hensure, hcreate, -⟩ := runs_redoWorkspace hrun
    exact .inl (hcreated hensure hcreate)

/-- What the loops of a pass leave from the visit of a workspace on. -/
theorem Loops.leaves (loops : pass.Loops exec s t l) (hdesired : pass.desired.WellFormed pass.host)
    (hserver : server = McpConfig.axEntry name pass.setup.socketPath pass.setup.configPath
      pass.setup.axBin) (hname : name ∉ pass.desired.orchestrators) (dir : String)
    {pre post : List (String × DesiredWorkspace)}
    (hsplit : pass.desired.workspaces.toList = pre ++ (name, entry) :: post) {v : σ}
    {zs : List ((String × DesiredWorkspace) × Visit WorkspaceState)} {l' : List Cmd}
    (hpost : Runs exec (Fallible.traverse (fun entry => pass.visitWorkspace entry.1 entry.2) post)
      v (.ok zs) loops.s₁ l') :
    Leaves exec dir server (pass.TakesLater layout dir name) (pass.TakesLater layout dir name) v
      t := by
  have hordered := Std.ExtTreeMap.ordered_keys_toList (t := pass.desired.workspaces)
  rw [hsplit, List.pairwise_append, List.pairwise_cons] at hordered
  obtain ⟨-, ⟨hafter, -⟩, hbefore⟩ := hordered
  let takes₁ := ∃ entry ∈ post, pass.WorkspaceTakes layout dir entry.1 entry.2
  have h₁ : Leaves exec dir server takes₁ takes₁ v loops.s₁ := by
    refine leaves_of_traverse (fun later hmem => ?_) hpost
    refine harms_visitWorkspace hexec (hserver ▸ axEntry_ne fun heq => ?_)
    have hlt := hafter later hmem
    rw [← heq, Std.compare_self] at hlt
    cases hlt
  let takes₂ := ∃ entry ∈ pass.droppedWorkspaces, pass.blocked entry.1 = none ∧
    layout.Clears entry.1 entry.2.dir dir
  have h₂ : Leaves exec dir server takes₂ takes₂ loops.s₁ loops.s₂ :=
    leaves_of_traverse (fun _ _ => harms_drop hexec (harms_within
      (harms_cleanupWorkspaceState hexec))) loops.runs₂
  let takes₃ := ∃ entry ∈ pass.desired.orchestrators.toList,
    pass.OrchestratorTakes layout dir entry.1 entry.2
  have h₃ : Leaves exec dir server takes₃ takes₃ loops.s₂ loops.s₃ := by
    refine leaves_of_traverse (fun later hmem => ?_) loops.runs₃
    refine harms_visitOrchestrator hexec (hdesired.orchestrators _ _
      (Std.ExtTreeMap.mem_toList_iff_getElem?_eq_some.mp hmem)) (hserver ▸ axEntry_ne ?_)
    exact fun heq => hname (heq ▸ BTreeMap.mem_of_mem_toList hmem)
  let takes₄ := ∃ entry ∈ pass.droppedOrchestrators, pass.blocked entry.1 = none ∧
    layout.OrchestratorClears entry.1 entry.2.artifactDir dir
  have h₄ : Leaves exec dir server takes₄ takes₄ loops.s₃ t :=
    leaves_of_traverse (fun _ _ => harms_drop hexec (harms_within
      (harms_cleanupOrchestratorState hexec))) loops.runs₄
  refine (h₁.trans (h₂.trans (h₃.trans h₄))).imp (Or.imp_left ?_) (Or.imp_left ?_)
  · rintro ⟨later, hmem, hlt, htakes⟩
    refine ⟨later, ?_, htakes⟩
    rw [hsplit, List.mem_append, List.mem_cons] at hmem
    rcases hmem with hmem | rfl | hmem
    · have hgt := hbefore _ hmem _ List.mem_cons_self
      cases hgt.symm.trans (Std.OrientedCmp.gt_of_lt hlt)
    · rw [Std.compare_self] at hlt
      cases hlt
    · exact hmem
  · rintro ⟨later, hmem, htakes⟩
    exact ⟨later, by rw [hsplit]; simp [hmem], hafter later hmem, htakes⟩

lemma Loops.hasArtifacts_iff (loops : pass.Loops exec s t l)
    (hdesired : pass.desired.WellFormed pass.host)
    (hentry : pass.desired.workspaces[name]? = some entry)
    (hname : name ∉ pass.desired.orchestrators)
    (hunblocked : ∀ change reason,
      ⟨.workspace, name, .blocked change, reason⟩ ∉ loops.visits.report.actions) :
    HasArtifacts exec pass.host pass.setup name entry.workspace t ↔
      ¬pass.TakesLater layout entry.workspace.dir name := by
  obtain ⟨pre, post, zs, visit, zs', u, v, l₁, l₂, l₃, hsplit, -, hvisit, hpost, hresults, -⟩ :=
    runs_traverse_mem loops.runs₁ (Std.ExtTreeMap.mem_toList_iff_getElem?_eq_some.mpr hentry)
  have hleaves := loops.leaves hexec hdesired rfl hname entry.workspace.dir hsplit hpost
  rcases hasArtifacts_of_visitWorkspace hexec hvisit with hfiles | ⟨change, reason, hnote⟩
  · constructor
    · exact fun hfinal htakes => hleaves.lost (.inl htakes) hfinal.server
    · exact fun hspared => hfiles.of_sameFiles (hleaves.kept hspared)
  · have hresult : ((name, entry), visit) ∈ loops.workspaces := by simp [hresults]
    exact absurd (loops.mem_actions (.inl ⟨_, List.mem_append_left _ (List.mem_map_of_mem hresult),
      hnote⟩)) (hunblocked change reason)

end Visits

end Pass

section Passes

variable {σ : Type} {exec : Exec σ} {layout : Layout} {live : σ → BTreeMap String Flags} {s t : σ}
  {l : List Cmd} {r : Reconciler} {host : Host} {desired : DesiredState}
  {opts : ReconcileOptions}

lemma spares_saveRuntimeState (dir configPath : String) (state : RuntimeState) :
    Uses (layout.Spares dir) (saveRuntimeState (reconcileStatePath configPath) state) := by
  refine uses_bind ?_ fun _ => uses_bind (uses_ask fun path hpath htouches => ?_) fun _ =>
    uses_raise _ _
  · unfold makeStateDir
    split
    · exact uses_pure _
    · exact uses_bind (uses_ask fun _ _ => id) fun _ => uses_raise _ _
  · obtain ⟨name, hname, hlocate⟩ := layout.locate_artifact hpath
    have heq : layout.locate dir ++ [name] = layout.locate (reconcileStatePath configPath) :=
      hlocate.symm.trans htouches
    rw [reconcileStatePath, layout.locate_join _ _ (by decide)] at heq
    obtain rfl := Layout.last_eq heq
    exact absurd hname (by decide)

/-- The pass over a state that was read, with the sessions that are live. -/
def Reconciler.passOver (r : Reconciler) (host : Host) (desired : DesiredState)
    (opts : ReconcileOptions) (previous : RuntimeState) (live : BTreeMap String Flags) : Pass :=
  ⟨host, r.setup, desired, opts, previous, live.map fun _ flags => flags.snapshot⟩

/-- A workspace that a pass does not report as blocked has its server and its section afterwards
if and only if no entry that is set up or cleaned up after it takes its directory. -/
theorem artifacts_survive_iff (hexec : KeepsFiles exec layout) (hlive : Agrees exec live)
    (hdesired : desired.WellFormed host) {previous : RuntimeState}
    (hprevious : RuntimeState.ofRead (reconcileStatePath r.configPath)
      (exec (.readJson (reconcileStatePath r.configPath)) s).1 = .ok previous)
    {report : ReconcileReport}
    (h : Runs exec (r.reconcileDesiredState host desired opts) s (.ok report) t l) {name : String}
    {entry : DesiredWorkspace} (hentry : desired.workspaces[name]? = some entry)
    (hname : name ∉ desired.orchestrators) (hunblocked : ∀ change reason,
      ⟨.workspace, name, .blocked change, reason⟩ ∉ report.actions) :
    HasArtifacts exec host r.setup name entry.workspace t ↔
      ¬(r.passOver host desired opts previous (live s)).TakesLater layout entry.workspace.dir
        name := by
  obtain ⟨pass, s₁, s₂, s₃, l₁, l₂, l₃, l₄, loops, rfl, hsetup, rfl, rfl, hload, hsnapshots,
    hsave, rfl, -⟩ := runs_reconcileDesiredState h
  obtain ⟨hloaded, -, -⟩ := runs_loadRuntimeState hload
  obtain rfl := Except.ok.inj (hprevious.symm.trans hloaded)
  obtain ⟨-, hsessions⟩ := runs_loadSessionSnapshots hlive (nodup_desiredSessionNames _ _)
    hsnapshots
  have hblocked : ∀ other ∈ desiredSessionNames pass.previous pass.desired, pass.blocked other =
      (r.passOver pass.host pass.desired pass.opts pass.previous (live s)).blocked other := by
    intro other hother
    rw [Pass.blocked, Pass.session, hsessions other hother,
      hlive.live_of_quiet (uses_loadRuntimeState _) hload, Pass.blocked, Pass.session,
      Reconciler.passOver, Std.ExtTreeMap.getElem?_map]
  have hsame := sameFiles_of_uses hexec (spares_saveRuntimeState entry.workspace.dir _ _) hsave
  have hpass : r.passOver pass.host pass.desired pass.opts pass.previous (live s) =
      { pass with sessions := (live s).map fun _ flags => flags.snapshot } := by
    rw [Reconciler.passOver, ← hsetup]
  rw [hpass] at hblocked ⊢
  rw [← hsetup, ← Pass.takesLater_iff hblocked,
    ← loops.hasArtifacts_iff hexec hdesired hentry hname hunblocked]
  exact ⟨HasArtifacts.of_sameFiles hsame.symm, HasArtifacts.of_sameFiles hsame⟩

end Passes

/-- A first pass over one workspace. -/
theorem artifacts_survive_fresh :
    let r : Reconciler := ⟨"/run/ax.sock", "/p/.ax/config.yaml", "/bin/ax"⟩
    let p := r.reconcileDesiredState .plain (.only "w" "/w") ⟨true, true⟩
    HasArtifacts Machine.exec .plain r.setup "w" { Config.Workspace.default with dir := "/w" }
      (p.run.run Machine.exec (.idleSince ∅)).2 := by
  intro r p
  have hresult : (p.run.run Machine.exec (.idleSince ∅)).1 = .ok { actions :=
      [⟨.workspace, "w", .done .create, "generated artifacts refreshed and session started"⟩] } :=
    by decide +kernel
  have hread : RuntimeState.ofRead (reconcileStatePath r.configPath)
      (Machine.exec (.readJson (reconcileStatePath r.configPath)) (.idleSince ∅)).1 =
        .ok RuntimeState.new := by
    decide +kernel
  refine (artifacts_survive_iff Machine.keepsFiles_exec Machine.consistent_exec.toAgrees
    (DesiredState.wellFormed_only _ "w" "/w") hread (Prog.runs_of_fst hresult)
    (BTreeMap.get?_insert_self ..) (by simp [DesiredState.only]) (by simp)).mpr ?_
  rintro (⟨⟨other, entry⟩, hmem, hlt, -⟩ | ⟨_, hmem, -⟩ | ⟨_, hmem, -⟩ | ⟨_, hmem, -⟩)
  · have hname := BTreeMap.mem_of_mem_toList hmem
    obtain rfl : "w" = other := by simpa [Reconciler.passOver, DesiredState.only] using hname
    rw [Std.compare_self] at hlt
    cases hlt
  · have hprev := BTreeMap.mem_of_mem_toList (List.mem_filter.mp hmem).1
    simp [Reconciler.passOver, RuntimeState.new] at hprev
  · have hname := BTreeMap.mem_of_mem_toList hmem
    simp [Reconciler.passOver, DesiredState.only] at hname
  · have hprev := BTreeMap.mem_of_mem_toList (List.mem_filter.mp hmem).1
    simp [Reconciler.passOver, RuntimeState.new] at hprev

def sharedDir : Config.FileSystem :=
  .ofEntries (some "/home/ax") [Config.FileSystem.project "p"
    { Config.default with
      disableRootOrchestrator := true
      workspaces := ((∅ : BTreeMap String Config.Workspace).insert "a"
        { Config.Workspace.default with dir := "." }).insert "b"
        { Config.Workspace.default with dir := "." } } []]

/-- Two workspaces with one directory are accepted and started, and the directory has the
server of the second one only. -/
theorem artifacts_lost_sharedDir :
    ∃ desired, Accepted .ascii sharedDir.disk .plain "/p/.ax/config.yaml" desired ∧
      let r : Reconciler := ⟨"/run/ax.sock", "/p/.ax/config.yaml", "/bin/ax"⟩
      let p := r.reconcileDesiredState .plain desired ⟨true, true⟩
      ∃ entry, desired.workspaces["a"]? = some entry ∧
        (p.run.run Machine.exec (.idleSince ∅)).1 = .ok { actions :=
          [⟨.workspace, "a", .done .create, "generated artifacts refreshed and session started"⟩,
          ⟨.workspace, "b", .done .create,
            "generated artifacts refreshed and session started"⟩] } ∧
        ¬HasArtifacts Machine.exec .plain r.setup "a" entry.workspace
          (p.run.run Machine.exec (.idleSince ∅)).2 := by
  let r : Reconciler := ⟨"/run/ax.sock", "/p/.ax/config.yaml", "/bin/ax"⟩
  have heval : ((desiredOn .ascii sharedDir.disk 1 .plain "/run/ax.sock"
      "/p/.ax/config.yaml").map fun desired =>
        let p := r.reconcileDesiredState .plain desired ⟨true, true⟩
        (desired.workspaces["a"]?.map fun entry => entry.workspace.dir,
          (p.run.run Machine.exec (.idleSince ∅)).1,
          serverAt Machine.exec "/p/." (p.run.run Machine.exec (.idleSince ∅)).2)) =
      some (some "/p/.", .ok { actions :=
          [⟨.workspace, "a", .done .create, "generated artifacts refreshed and session started"⟩,
          ⟨.workspace, "b", .done .create,
            "generated artifacts refreshed and session started"⟩] },
        some (McpConfig.axEntry "b" "/run/ax.sock" (some "/p/.ax/config.yaml") "/bin/ax")) := by
    decide +kernel
  obtain ⟨desired, hdesired, hvalues⟩ := Option.map_eq_some_iff.mp heval
  obtain ⟨hdir, hrest⟩ := Prod.mk.inj hvalues
  obtain ⟨hresult, hserver⟩ := Prod.mk.inj hrest
  obtain ⟨entry, hentry, hdir⟩ := Option.map_eq_some_iff.mp hdir
  refine ⟨desired, accepted_of_desiredOn hdesired, entry, hentry, hresult, fun hfiles => ?_⟩
  have hown := hfiles.server
  rw [hdir, hserver] at hown
  exact absurd hown (by decide)

-- A workspace that gets another name: its directory is cleaned up under the old one.
example :
    let r : Reconciler := ⟨"/run/ax.sock", "/p/.ax/config.yaml", "/bin/ax"⟩
    let m := Machine.recording r.configPath (DesiredState.only "a" "/w").recorded ∅
    let p := r.reconcileDesiredState .plain (.only "b" "/w") ⟨true, true⟩
    (p.run.run Machine.exec m).1 = .ok { actions :=
        [⟨.workspace, "b", .done .create, "generated artifacts refreshed and session started"⟩,
        ⟨.workspace, "a", .done .remove, "generated artifacts cleaned up"⟩] } ∧
      serverAt Machine.exec "/w" (p.run.run Machine.exec m).2 = none := by
  decide +kernel

end Ax.Workspaces
