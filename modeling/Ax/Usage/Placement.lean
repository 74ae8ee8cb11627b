import Ax.Usage.Attribution

/-!
# Where a transcript is placed

`assign_series` first places the transcripts with hints, and notes the workspaces of their
sessions.  The others go to the workspace of their session, and if that is not known to the
workspace that alone has their directory.  The three maps between the two passes are described
here by the lists that they are made of.

Main results:

- Theorem `workspaceOf_eq_some_iff`: why a transcript belongs to a workspace.
- Theorem `assignSeries_spec`: the transcripts of a workspace, in any order of the workspaces.
-/

namespace Ax.Usage

variable {bindings : List WorkspaceBinding} {all : List TranscriptSeries}
  {series : TranscriptSeries} {name : String}

/-! ## By hint -/

def WorkspaceBinding.HintedBy (binding : WorkspaceBinding) (series : TranscriptSeries) : Prop :=
  series.workspaceHint ≠ "" ∧ binding.name = series.workspaceHint ∧
    (binding.dir = "" ∨ series.cwd = "" ∨ cleanPath binding.dir = cleanPath series.cwd)

lemma get?_bindingByName (hnames : (bindings.map WorkspaceBinding.name).Nodup) {key : String}
    {binding : WorkspaceBinding} :
    (bindingByName bindings)[key]? = some binding ↔ binding ∈ bindings ∧ binding.name = key := by
  have hentries : bindingByName bindings = (bindings.map fun b => (b.name, b)).foldl
      (fun byName entry => byName.insert entry.1 entry.2) ∅ := by
    rw [bindingByName, List.foldl_map]
  rw [hentries, BTreeMap.get?_ofEntries (by rwa [List.map_map]), List.mem_map]
  constructor
  · rintro ⟨b, hb, heq⟩
    cases heq
    exact ⟨hb, rfl⟩
  · rintro ⟨hb, rfl⟩
    exact ⟨binding, hb, rfl⟩

lemma hintedWorkspace_eq_some_iff (hnames : (bindings.map WorkspaceBinding.name).Nodup) :
    hintedWorkspace bindings series = some name ↔
      ∃ binding ∈ bindings, binding.name = name ∧ binding.HintedBy series := by
  unfold hintedWorkspace
  by_cases hhint : series.workspaceHint = ""
  · simp [hhint, WorkspaceBinding.HintedBy]
  rw [if_neg hhint]
  constructor
  · intro h
    cases hget : (bindingByName bindings)[series.workspaceHint]? with
    | none =>
      rw [hget] at h
      cases h
    | some binding =>
      obtain ⟨hmem, hname⟩ := (get?_bindingByName hnames).mp hget
      rw [hget] at h
      obtain ⟨hagree, h⟩ := Option.ite_none_left_eq_some.mp h
      exact ⟨binding, hmem, Option.some.inj h, hhint, hname, by tauto⟩
  · rintro ⟨binding, hmem, rfl, -, hname, hagree⟩
    rw [(get?_bindingByName hnames).mpr ⟨hmem, hname⟩]
    exact if_neg (by tauto)

/-! ## By session -/

def lastHinted (bindings : List WorkspaceBinding) (all : List TranscriptSeries)
    (sessionId : String) : Option String :=
  if sessionId = "" then none
  else ((all.filter fun s => s.sessionId = sessionId).filterMap (hintedWorkspace bindings)).getLast?

lemma get?_sessionWorkspace (bindings : List WorkspaceBinding) (all : List TranscriptSeries)
    {sessionId : String} (hid : sessionId ≠ "") :
    (sessionWorkspace bindings all)[sessionId]? = lastHinted bindings all sessionId := by
  rw [lastHinted, if_neg hid]
  induction all using List.reverseRecOn with
  | nil => simp [sessionWorkspace]
  | append_singleton all s ih =>
    rw [sessionWorkspace, List.foldl_append, ← sessionWorkspace, List.foldl_cons, List.foldl_nil,
      List.filter_append, List.filterMap_append]
    cases hhinted : hintedWorkspace bindings s with
    | none => by_cases hsame : s.sessionId = sessionId <;> simp [hsame, hhinted, ih]
    | some name =>
      by_cases hsame : s.sessionId = sessionId
      · simp [hsame, hhinted, hid]
      · by_cases hnone : s.sessionId = ""
        · simp [hnone, Ne.symm hid, ih]
        · simp [hsame, hnone, BTreeMap.get?_insert, Ne.symm hsame, ih]

/-! ## By directory -/

def WorkspaceBinding.Owns (binding : WorkspaceBinding) (bindings : List WorkspaceBinding)
    (dir : String) : Prop :=
  dir ≠ "" ∧ binding ∈ bindings ∧ cleanPath binding.dir = dir ∧
    ∀ other ∈ bindings, cleanPath other.dir = dir → other = binding

def noteOwner (noted : Option String) (name : String) : Option String :=
  match noted with
  | some existing => if existing ≠ name then some "" else some existing
  | none => some name

lemma get?_uniqueByDir (bindings : List WorkspaceBinding) (dir : String) :
    (uniqueByDir bindings)[dir]? =
      if dir = "" then none
      else ((bindings.filter fun b => cleanPath b.dir = dir).map WorkspaceBinding.name).foldl
        noteOwner none := by
  induction bindings using List.reverseRecOn with
  | nil => simp [uniqueByDir]
  | append_singleton bindings b ih =>
    rw [uniqueByDir, List.foldl_append, ← uniqueByDir, List.foldl_cons, List.foldl_nil]
    dsimp only
    by_cases hsame : cleanPath b.dir = dir
    · by_cases hempty : dir = ""
      · rw [if_pos (hsame.trans hempty), ih, if_pos hempty, if_pos hempty]
      · rw [if_neg hempty] at ih
        rw [hsame, if_neg hempty, if_neg hempty, List.filter_append, List.map_append,
          List.foldl_append, ← ih]
        cases hnoted : (uniqueByDir bindings)[dir]? with
        | none => simp [hsame, noteOwner]
        | some existing =>
          by_cases hname : existing = b.name <;> simp [hsame, noteOwner, hname, hnoted]
    · have hfilter : (bindings ++ [b]).filter (fun b => cleanPath b.dir = dir) =
          bindings.filter fun b => cleanPath b.dir = dir := by
        simp [hsame]
      rw [hfilter, ← ih]
      split_ifs
      · rfl
      · split
        · split_ifs <;> simp [BTreeMap.get?_insert, Ne.symm hsame]
        · simp [BTreeMap.get?_insert, Ne.symm hsame]

lemma foldl_noteOwner_some {names : List String} {existing : String} (hname : name ≠ "") :
    names.foldl noteOwner (some existing) = some name ↔
      existing = name ∧ ∀ x ∈ names, x = name := by
  induction names generalizing existing with
  | nil => simp
  | cons x names ih =>
    by_cases hsame : existing = x
    · rw [List.foldl_cons, noteOwner, if_neg (not_not.mpr hsame), ih, List.forall_mem_cons, hsame]
      tauto
    · rw [List.foldl_cons, noteOwner, if_pos hsame, ih, List.forall_mem_cons]
      constructor
      · rintro ⟨rfl, -⟩
        exact absurd rfl hname
      · rintro ⟨rfl, rfl, -⟩
        exact absurd rfl hsame

lemma get?_uniqueByDir_eq_some_iff (hnames : (bindings.map WorkspaceBinding.name).Nodup)
    {dir : String} (hname : name ≠ "") :
    (uniqueByDir bindings)[dir]? = some name ↔
      ∃ binding : WorkspaceBinding, binding.name = name ∧ binding.Owns bindings dir := by
  rw [get?_uniqueByDir, Option.ite_none_left_eq_some]
  have hmem : ∀ b, b ∈ bindings.filter (fun b => cleanPath b.dir = dir) ↔
      b ∈ bindings ∧ cleanPath b.dir = dir := by simp
  cases howners : bindings.filter fun b => cleanPath b.dir = dir with
  | nil =>
    simp only [howners, List.not_mem_nil, false_iff] at hmem
    constructor
    · rintro ⟨-, h⟩
      cases h
    · rintro ⟨b, -, -, hb, hdir, -⟩
      exact absurd ⟨hb, hdir⟩ (hmem b)
  | cons b rest =>
    rw [howners] at hmem
    obtain ⟨hb, hdir⟩ := (hmem b).mp (.head rest)
    rw [List.map_cons, List.foldl_cons, noteOwner, foldl_noteOwner_some hname]
    constructor
    · rintro ⟨hne, rfl, hrest⟩
      refine ⟨b, rfl, hne, hb, hdir, fun other hother hsame => ?_⟩
      rcases List.mem_cons.mp ((hmem other).mpr ⟨hother, hsame⟩) with rfl | hmore
      · rfl
      · exact List.inj_on_of_nodup_map hnames hother hb (hrest _ (List.mem_map_of_mem hmore))
    · rintro ⟨owner, rfl, hne, -, -, hall⟩
      refine ⟨hne, congrArg _ (hall b hb hdir), fun x hx => ?_⟩
      obtain ⟨other, hother, rfl⟩ := List.mem_map.mp hx
      obtain ⟨hmore, hsame⟩ := (hmem other).mp (.tail b hother)
      exact congrArg _ (hall other hmore hsame)

/-! ## Both passes -/

inductive Placed (bindings : List WorkspaceBinding) (all : List TranscriptSeries)
    (series : TranscriptSeries) (name : String) : Prop
  | hint (binding : WorkspaceBinding) (hmem : binding ∈ bindings) (hname : binding.name = name)
      (hhint : binding.HintedBy series)
  | session (hnone : series.workspaceHint = "")
      (hlast : lastHinted bindings all series.sessionId = some name)
  | directory (hnone : series.workspaceHint = "")
      (hlast : lastHinted bindings all series.sessionId = none) (binding : WorkspaceBinding)
      (hname : binding.name = name) (hne : name ≠ "")
      (howns : binding.Owns bindings (cleanPath series.cwd))

section Distinct

variable (hnames : (bindings.map WorkspaceBinding.name).Nodup)
include hnames

lemma exists_of_lastHinted {sessionId : String}
    (h : lastHinted bindings all sessionId = some name) :
    sessionId ≠ "" ∧ name ∈ bindings.map WorkspaceBinding.name ∧
      ∃ other ∈ all, other.workspaceHint = name ∧ name ≠ "" ∧ other.sessionId = sessionId := by
  obtain ⟨hid, h⟩ := Option.ite_none_left_eq_some.mp h
  obtain ⟨other, hother, hhinted⟩ := List.mem_filterMap.mp (List.mem_of_getLast? h)
  obtain ⟨hmem, hsame⟩ := List.mem_filter.mp hother
  obtain ⟨binding, hbinding, rfl, hhint, hname, -⟩ :=
    (hintedWorkspace_eq_some_iff hnames).mp hhinted
  exact ⟨hid, List.mem_map_of_mem hbinding, other, hmem, hname.symm, hname ▸ hhint,
    by simpa using hsame⟩

lemma Placed.mem_names (h : Placed bindings all series name) :
    name ∈ bindings.map WorkspaceBinding.name := by
  cases h with
  | hint binding hmem hname => exact hname ▸ List.mem_map_of_mem hmem
  | session _ hlast => exact (exists_of_lastHinted hnames hlast).2.1
  | directory _ _ binding hname _ howns => exact hname ▸ List.mem_map_of_mem howns.2.1

lemma unhintedWorkspace_eq_some_iff :
    unhintedWorkspace bindings (sessionWorkspace bindings all) series = some name ↔
      series.workspaceHint = "" ∧ Placed bindings all series name := by
  have hsession : (if series.sessionId ≠ "" then
      (sessionWorkspace bindings all)[series.sessionId]?.getD "" else "") =
        (lastHinted bindings all series.sessionId).getD "" := by
    by_cases hid : series.sessionId = ""
    · rw [if_neg (not_not.mpr hid), lastHinted, if_pos hid]
      rfl
    · rw [if_pos hid, get?_sessionWorkspace bindings all hid]
  rw [unhintedWorkspace, hsession, Option.ite_none_left_eq_some, not_or, not_not]
  cases hlast : lastHinted bindings all series.sessionId with
  | some found =>
    obtain ⟨-, -, -, -, -, hfound, -⟩ := exists_of_lastHinted hnames hlast
    simp only [Option.getD_some, hfound, false_and, if_false]
    constructor
    · rintro ⟨⟨hnone, -⟩, h⟩
      exact ⟨hnone, .session hnone (hlast.trans h)⟩
    · rintro ⟨hnone, hplaced⟩
      refine ⟨⟨hnone, not_false⟩, ?_⟩
      cases hplaced with
      | hint _ _ _ hhint => exact absurd hnone hhint.1
      | session _ hsame => exact hlast.symm.trans hsame
      | directory _ hsame => cases hlast.symm.trans hsame
  | none =>
    -- No workspace has the empty directory, so the test for it changes nothing.
    have hdir : (if True ∧ series.cwd ≠ "" then
        ((uniqueByDir bindings)[cleanPath series.cwd]?).getD "" else "") =
          ((uniqueByDir bindings)[cleanPath series.cwd]?).getD "" := by
      split_ifs with hcwd
      · rfl
      · have hempty : series.cwd = "" := by simpa using hcwd
        rw [hempty, get?_uniqueByDir, if_pos (by decide : cleanPath "" = "")]
        rfl
    simp only [Option.getD_none]
    rw [hdir]
    constructor
    · rintro ⟨⟨hnone, hne⟩, h⟩
      cases hget : (uniqueByDir bindings)[cleanPath series.cwd]? with
      | none =>
        rw [hget] at hne
        exact absurd rfl hne
      | some found =>
        rw [hget, Option.getD_some] at hne h
        obtain rfl := Option.some.inj h
        obtain ⟨binding, hname, howns⟩ := (get?_uniqueByDir_eq_some_iff hnames hne).mp hget
        exact ⟨hnone, .directory hnone hlast binding hname hne howns⟩
    · rintro ⟨hnone, hplaced⟩
      cases hplaced with
      | hint _ _ _ hhint => exact absurd hnone hhint.1
      | session _ hsame => cases hlast.symm.trans hsame
      | directory _ _ binding hname hne howns =>
        rw [(get?_uniqueByDir_eq_some_iff hnames hne).mpr ⟨binding, hname, howns⟩]
        exact ⟨⟨hnone, hne⟩, rfl⟩

lemma workspaceOf_eq_some_iff :
    workspaceOf bindings all series = some name ↔ Placed bindings all series name := by
  rw [workspaceOf, Option.or_eq_some_iff, unhintedWorkspace_eq_some_iff hnames]
  constructor
  · rintro (h | ⟨-, -, hplaced⟩)
    · obtain ⟨binding, hmem, hname, hhint⟩ := (hintedWorkspace_eq_some_iff hnames).mp h
      exact .hint binding hmem hname hhint
    · exact hplaced
  · intro hplaced
    by_cases hnone : series.workspaceHint = ""
    · exact .inr ⟨if_pos hnone, hnone, hplaced⟩
    · refine .inl ((hintedWorkspace_eq_some_iff hnames).mpr ?_)
      cases hplaced with
      | hint binding hmem hname hhint => exact ⟨binding, hmem, hname, hhint⟩
      | session hempty => exact absurd hempty hnone
      | directory hempty => exact absurd hempty hnone

/-! ## The order of the workspaces -/

section Order

variable {bindings' : List WorkspaceBinding} (hperm : bindings.Perm bindings')
include hperm

omit hnames in
lemma WorkspaceBinding.Owns.perm {binding : WorkspaceBinding} {dir : String}
    (h : binding.Owns bindings dir) : binding.Owns bindings' dir :=
  ⟨h.1, hperm.subset h.2.1, h.2.2.1, fun other hother => h.2.2.2 other (hperm.symm.subset hother)⟩

lemma hintedWorkspace_perm : hintedWorkspace bindings' = hintedWorkspace bindings := by
  have hnames' := (hperm.map WorkspaceBinding.name).nodup hnames
  funext series
  ext name
  rw [hintedWorkspace_eq_some_iff hnames, hintedWorkspace_eq_some_iff hnames']
  simp only [hperm.mem_iff]

lemma Placed.perm (h : Placed bindings all series name) :
    Placed bindings' all series name := by
  have hlast (id : String) : lastHinted bindings' all id = lastHinted bindings all id := by
    rw [lastHinted, lastHinted, hintedWorkspace_perm hnames hperm]
  cases h with
  | hint binding hmem hname hhint => exact .hint binding (hperm.subset hmem) hname hhint
  | session hnone h => exact .session hnone ((hlast _).trans h)
  | directory hnone h binding hname hne howns =>
    exact .directory hnone ((hlast _).trans h) binding hname hne (howns.perm hperm)

lemma assignSeries_perm (all : List TranscriptSeries) :
    assignSeries bindings' all = assignSeries bindings all := by
  have hnames' := (hperm.map WorkspaceBinding.name).nodup hnames
  have hunhinted : unhintedWorkspace bindings' (sessionWorkspace bindings' all) =
      unhintedWorkspace bindings (sessionWorkspace bindings all) := by
    funext series
    ext name
    rw [unhintedWorkspace_eq_some_iff hnames, unhintedWorkspace_eq_some_iff hnames']
    exact and_congr_right fun _ => ⟨.perm hnames' hperm.symm, .perm hnames hperm⟩
  simp only [assignSeries, hintedWorkspace_perm hnames hperm, hunhinted]

end Order

/-- Every transcript is placed at most once, for one of three reasons, and the order of the
workspaces does not matter. -/
theorem assignSeries_spec (all : List TranscriptSeries) :
    (∀ name, ((assignSeries bindings all)[name]?.getD []).Perm
      (all.filter fun series => workspaceOf bindings all series = some name)) ∧
    (∀ series name, workspaceOf bindings all series = some name ↔
      Placed bindings all series name) ∧
    ∀ bindings', bindings.Perm bindings' → assignSeries bindings' all = assignSeries bindings all :=
  ⟨perm_assignSeries bindings all, fun _ _ => workspaceOf_eq_some_iff hnames,
    fun _ hperm => assignSeries_perm hnames hperm all⟩

end Distinct

/-- Two workspaces with one directory, in both orders. -/
theorem assignSeries_shared_dir :
    let bindings : List WorkspaceBinding := [⟨"a", "/p", none, []⟩, ⟨"b", "/p", none, []⟩]
    let all : List TranscriptSeries := [{ cwd := "/p" }, { cwd := "/p", workspaceHint := "b" }]
    (bindings.map WorkspaceBinding.name).Nodup ∧
      assignSeries bindings.reverse all = assignSeries bindings all :=
  ⟨by decide, (assignSeries_spec (by decide) _).2.2 _ (List.reverse_perm _).symm⟩

end Ax.Usage
