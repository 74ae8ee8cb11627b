import Ax.Usage.Placement

/-!
# Transcripts are counted once

The transcripts of a request are found by directory names: the project
directory of Claude is named after the workspace's directory with separators
and dots replaced, and the Codex homes of a workspace by its name alone.  A
transcript is counted once, and for a workspace that it names, exactly where
these names tell apart the directories that hold it.

Directories that the naming confuses are scanned once each, and every scan
counts: a project whose path has a dot where the other has a dash is counted
twice.

Main results:

- Theorem `usage_attribution_sound_iff`: when the transcripts of a request are counted once,
  for workspaces that they name.
- Theorem `usage_counted_twice`: two directories with one project directory.
-/

namespace Ax.Usage

/-! ## Files of different directories -/

/-- The files under a directory. -/
def Under (dir path : String) : Prop :=
  ∃ rest : String, path = dir ++ "/" ++ rest

/-- Names in one directory differ where their files do. -/
theorem eq_of_under {root a b path : String} (ha : '/' ∉ a.toList) (hb : '/' ∉ b.toList)
    (hpa : Under (root ++ "/" ++ a) path) (hpb : Under (root ++ "/" ++ b) path) : a = b := by
  obtain ⟨ra, rfl⟩ := hpa
  obtain ⟨rb, hrb⟩ := hpb
  have hlists : a.toList ++ '/' :: ra.toList = b.toList ++ '/' :: rb.toList := by
    have h := congrArg String.toList hrb
    simpa [String.toList_append] using h
  have hname (name : List Char) (hname : '/' ∉ name) (rest : List Char) :
      (name ++ '/' :: rest).takeWhile (· ≠ '/') = name := by
    rw [List.takeWhile_append_of_pos]
    · simp
    · intro c hc
      simp only [ne_eq, decide_eq_true_eq]
      rintro rfl
      exact hname hc
  have htake := congrArg (List.takeWhile (· ≠ '/')) hlists
  rw [hname _ ha, hname _ hb] at htake
  exact String.toList_injective htake

lemma nodup_listing {root : String} {names : List String} (listing : String → List String)
    (hnodup : names.Nodup) (hslash : ∀ name ∈ names, '/' ∉ name.toList)
    (hlisting : ∀ dir, (listing dir).Nodup) (hunder : ∀ dir, ∀ path ∈ listing dir, Under dir path) :
    (names.flatMap fun name => listing (root ++ "/" ++ name)).Nodup := by
  rw [List.nodup_flatMap]
  refine ⟨fun name _ => hlisting _, ?_⟩
  refine hnodup.imp_of_mem fun {a b} ha hb hne => ?_
  intro path hpa hpb
  exact hne (eq_of_under (hslash a ha) (hslash b hb) (hunder _ path hpa) (hunder _ path hpb))

structure UsageFiles.WellFormed (files : UsageFiles) : Prop where
  project : ∀ dir : String, (((files.project dir).getD []).map Transcript.path).Nodup ∧
    ∀ file ∈ (files.project dir).getD [], Under dir file.path
  codexHome : ∀ home : String, (((files.codexHome home).getD []).map Transcript.path).Nodup ∧
    ∀ file ∈ (files.codexHome home).getD [], Under home file.path
  codexHomeNames : files.codexHomeNames.Nodup ∧
    ∀ name ∈ files.codexHomeNames, '/' ∉ name.toList

/-! ## Project directories of Claude -/

variable {dir : String} {series : TranscriptSeries}

lemma join_name {name : String} {c : Char} (hlast : dir.toList.getLast? = some c) (hc : c ≠ '/')
    (hname : '/' ∉ name.toList) : Path.join dir name = dir ++ "/" ++ name := by
  have habsolute := Path.isAbsolute_of_notMem hname
  have hnot : ¬ (dir.toList.getLast? = none ∨ dir.toList.getLast? = some '/') := by
    rw [hlast]
    simp [hc]
  rw [Path.join, if_neg (by simp [habsolute]), if_neg hnot]

lemma getLast?_join {name : String} {c : Char} (hname : '/' ∉ name.toList)
    (hlast : name.toList.getLast? = some c) : (Path.join dir name).toList.getLast? = some c := by
  have happend (front : List Char) : (front ++ name.toList).getLast? = some c := by
    rw [List.getLast?_append, hlast]
    rfl
  rw [Path.join, if_neg (by simp [Path.isAbsolute_of_notMem hname])]
  split
  · rw [String.toList_append]
    exact happend _
  · rw [String.toList_append]
    exact happend _

def projectsRoot (home : String) : String :=
  Path.join (Path.join home ".claude") "projects"

lemma slash_notMem_encodeProjectKey (dir : String) : '/' ∉ (encodeProjectKey dir).toList := by
  rw [encodeProjectKey, String.toList_map, List.mem_map]
  rintro ⟨c, -, hc⟩
  split at hc
  · exact absurd hc (by decide)
  · next hnot => exact hnot (Or.inl hc)

lemma claudeProjectPath_eq (home dir : String) :
    claudeProjectPath home dir =
      projectsRoot home ++ "/" ++ encodeProjectKey (normalizePath dir) :=
  join_name (c := 's') (getLast?_join (by decide) (by decide)) (by decide)
    (slash_notMem_encodeProjectKey _)

lemma get?_addProjectDir (dirs : BTreeMap String String) (binding : WorkspaceBinding)
    (dir : String) : (addProjectDir dirs binding)[dir]? =
      if dir = binding.dir then dirs[dir]?.or binding.claudeProjectDir else dirs[dir]? := by
  rw [addProjectDir, ← Std.ExtTreeMap.isSome_getElem?_eq_contains]
  cases hfound : binding.claudeProjectDir with
  | none => simp
  | some found =>
    cases hknown : dirs[binding.dir]? with
    | none =>
      rw [if_neg (by simp), BTreeMap.get?_insert]
      split
      · next hdir => simp [hdir, hknown]
      · rfl
    | some known =>
      rw [if_pos Option.isSome_some]
      split
      · next hdir => simp [hdir, hknown]
      · rfl

lemma get?_projectDirs {bindings : List WorkspaceBinding} {p : String → Option String}
    (hproject : ∀ binding ∈ bindings, binding.claudeProjectDir = p binding.dir)
    {dir projectDir : String} : (projectDirs bindings)[dir]? = some projectDir ↔
      dir ∈ bindings.map WorkspaceBinding.dir ∧ p dir = some projectDir := by
  induction bindings using List.reverseRecOn generalizing projectDir with
  | nil => simp [projectDirs]
  | append_singleton bindings b ih =>
    have hb : b.claudeProjectDir = p b.dir := hproject b (by simp)
    replace ih := fun found => @ih (fun binding h => hproject binding (List.mem_append_left _ h))
      found
    rw [projectDirs, List.foldl_append, ← projectDirs, List.foldl_cons, List.foldl_nil,
      get?_addProjectDir, hb]
    split
    · next hdir =>
        subst hdir
        rw [Option.or_eq_some_iff, ih]
        simp only [List.map_append, List.mem_append, List.map_cons, List.map_nil,
          List.mem_singleton, or_true, true_and]
        constructor
        · rintro (⟨-, h⟩ | ⟨-, h⟩) <;> exact h
        · intro h
          by_cases hmem : b.dir ∈ bindings.map WorkspaceBinding.dir
          · exact .inl ⟨hmem, h⟩
          · refine .inr ⟨Option.eq_none_iff_forall_ne_some.mpr fun found hfound => ?_, h⟩
            exact hmem ((ih found).mp hfound).1
    · next hdir => simp [ih, hdir]

section Request

variable {files : UsageFiles} {host : UsageHost} {payload : UsageTrendsPayload}

variable {dir home workspace : String}

lemma projectDirs_request_iff {projectDir : String} :
    (projectDirs (payload.bindings files host))[dir]? = some projectDir ↔
      dir ≠ "" ∧ (∃ name, (name, dir) ∈ payload.workspaces) ∧
        ∃ home, host.home = some home ∧ projectDir = claudeProjectPath home dir := by
  have hrequested : dir ∈ (payload.bindings files host).map WorkspaceBinding.dir ↔
      ∃ name, (name, dir) ∈ payload.workspaces := by
    rw [UsageTrendsPayload.bindings, List.map_map]
    simp [buildBinding]
  rw [get?_projectDirs (p := fun dir => if dir = "" then none
    else host.home.map fun home => claudeProjectPath home dir) ?_, hrequested]
  · by_cases hempty : dir = ""
    · simp [hempty]
    · simp [hempty, eq_comm]
  · intro binding hbinding
    obtain ⟨request, -, rfl⟩ := List.mem_map.mp hbinding
    rfl

/-- Files of a project directory are found there only. -/
lemma projectDir_eq_of_path (hfiles : files.WellFormed) {a b dirA dirB : String}
    (ha : (projectDirs (payload.bindings files host))[dirA]? = some a)
    (hb : (projectDirs (payload.bindings files host))[dirB]? = some b)
    {file file' : Transcript ParsedRecord} (hfile : file ∈ (files.project a).getD [])
    (hfile' : file' ∈ (files.project b).getD []) (hpath : file.path = file'.path) :
    encodeProjectKey (normalizePath dirA) = encodeProjectKey (normalizePath dirB) ∧ a = b ∧
      file = file' := by
  obtain ⟨-, -, home, hhome, rfl⟩ := projectDirs_request_iff.mp ha
  obtain ⟨-, -, home', hhome', rfl⟩ := projectDirs_request_iff.mp hb
  obtain rfl := Option.some.inj (hhome.symm.trans hhome')
  have hunder := (hfiles.project _).2 file hfile
  have hunder' := (hfiles.project _).2 file' hfile'
  rw [claudeProjectPath_eq] at hunder hunder'
  have hkey := eq_of_under (slash_notMem_encodeProjectKey _) (slash_notMem_encodeProjectKey _)
    hunder (hpath ▸ hunder')
  have hdir : claudeProjectPath home dirA = claudeProjectPath home dirB := by
    rw [claudeProjectPath_eq, claudeProjectPath_eq, hkey]
  refine ⟨hkey, hdir, List.inj_on_of_nodup_map (hfiles.project _).1 hfile ?_ hpath⟩
  rw [hdir]
  exact hfile'

/-! ## Codex homes -/

def codexHomeNamesOf (files : UsageFiles) (host : UsageHost) (home workspace dir : String) :
    List String :=
  codexHomeKey host workspace dir ::
    (files.codexHomeNames.filter (isCodexHomeOf workspace)).filter fun name =>
      Path.components (Path.join (codexHomesRoot home) name) ≠
        Path.components (Path.join (codexHomesRoot home) (codexHomeKey host workspace dir))

lemma slash_notMem_encode (bytes : List UInt8) : '/' ∉ (Hex.encode bytes).toList := by
  have hdigit (n : Nat) (hn : n < 16) : Nat.digitChar n ≠ '/' := by
    revert n
    decide
  rw [Hex.encode, String.toList_ofList, List.mem_flatMap]
  rintro ⟨byte, -, hbyte⟩
  rw [Hex.digits, List.mem_pair] at hbyte
  have hlt := byte.toNat_lt
  rcases hbyte with h | h
  · exact hdigit _ (by omega) h.symm
  · exact hdigit _ (by omega) h.symm

lemma eq_of_mem_codexHomeNamesOf {name : String}
    (h : name ∈ codexHomeNamesOf files host home workspace dir) :
    ∃ rest : String, name = workspace ++ "-" ++ rest ∧ rest.length = 12 := by
  rcases List.mem_cons.mp h with rfl | h
  · refine ⟨_, rfl, ?_⟩
    simp
  · have hhome := (List.mem_filter.mp (List.mem_filter.mp h).1).2
    simp only [isCodexHomeOf, Text.stripStart] at hhome
    split at hhome
    · cases hhome
    · next rest hrest =>
        split at hrest
        · next hstart =>
            obtain rfl := Option.some.inj hrest
            rw [List.isPrefixOf_iff_prefix] at hstart
            obtain ⟨tail, htail⟩ := hstart
            rw [Bool.and_eq_true, decide_eq_true_eq] at hhome
            refine ⟨_, ?_, hhome.1⟩
            apply String.toList_injective
            rw [String.toList_append, String.toList_ofList, ← htail, ← String.length_toList,
              List.drop_left]
        · cases hrest

lemma eq_of_append_dash {a b rest rest' : String} (h : a ++ "-" ++ rest = b ++ "-" ++ rest')
    (hlength : rest.length = rest'.length) : a = b := by
  have hlists := congrArg String.toList h
  rw [String.toList_append, String.toList_append, String.toList_append, String.toList_append]
    at hlists
  have hsplit := List.append_inj' hlists (by rwa [String.length_toList, String.length_toList])
  exact String.toList_injective (List.append_cancel_right hsplit.1)

lemma disjoint_codexHomeNamesOf {a b dir' : String} (hne : a ≠ b) :
    (codexHomeNamesOf files host home a dir).Disjoint
      (codexHomeNamesOf files host home b dir') := by
  intro name ha hb
  obtain ⟨rest, rfl, hlength⟩ := eq_of_mem_codexHomeNamesOf ha
  obtain ⟨rest', heq, hlength'⟩ := eq_of_mem_codexHomeNamesOf hb
  exact hne (eq_of_append_dash heq (hlength.trans hlength'.symm))

def UsageTrendsPayload.PlainNames (payload : UsageTrendsPayload) : Prop :=
  ∀ request ∈ payload.workspaces, '/' ∉ request.1.toList

lemma slash_notMem_codexHomeKey (hslash : '/' ∉ workspace.toList) :
    '/' ∉ (codexHomeKey host workspace dir).toList := by
  rw [codexHomeKey, String.toList_append, String.toList_append, List.mem_append, List.mem_append]
  rintro ((hmem | hmem) | hmem)
  · exact hslash hmem
  · exact absurd hmem (by decide)
  · exact slash_notMem_encode _ hmem

lemma slash_notMem_codexHomeNamesOf (hfiles : files.WellFormed) (hslash : '/' ∉ workspace.toList)
    {name : String} (h : name ∈ codexHomeNamesOf files host home workspace dir) :
    '/' ∉ name.toList := by
  rcases List.mem_cons.mp h with rfl | h
  · exact slash_notMem_codexHomeKey hslash
  · exact hfiles.codexHomeNames.2 name (List.mem_filter.mp (List.mem_filter.mp h).1).1

lemma nodup_codexHomeNamesOf (hfiles : files.WellFormed) (home workspace dir : String) :
    (codexHomeNamesOf files host home workspace dir).Nodup := by
  refine List.nodup_cons.mpr ⟨?_, (hfiles.codexHomeNames.1.filter _).filter _⟩
  intro h
  simpa using (List.mem_filter.mp h).2

lemma codexHomes_buildBinding (hfiles : files.WellFormed) (hhome : host.home = some home)
    (hslash : '/' ∉ workspace.toList) (hdir : dir ≠ "") :
    (buildBinding files host workspace dir).codexHomes =
      (codexHomeNamesOf files host home workspace dir).map fun name =>
        codexHomesRoot home ++ "/" ++ name := by
  have hjoin : (codexHomeNamesOf files host home workspace dir).map
        (Path.join (codexHomesRoot home)) =
      (codexHomeNamesOf files host home workspace dir).map fun name =>
        codexHomesRoot home ++ "/" ++ name := by
    refine List.map_congr_left fun name hname => ?_
    exact join_name (c := 'x') (getLast?_join (by decide) (by decide)) (by decide)
      (slash_notMem_codexHomeNamesOf hfiles hslash hname)
  rw [← hjoin, codexHomeNamesOf, List.map_cons]
  simp only [buildBinding, if_neg hdir, hhome, Option.map_some, Option.getD_some,
    discoverCodexHomeCandidates, List.filter_map]
  rfl

lemma nodup_path_codexHomes (host : UsageHost) (hfiles : files.WellFormed)
    (hnames : (payload.workspaces.map Prod.fst).Nodup) (hplain : payload.PlainNames) :
    ((payload.bindings files host).flatMap fun binding =>
      binding.codexHomes.flatMap fun home =>
        ((files.codexHome home).getD []).map Transcript.path).Nodup := by
  rw [UsageTrendsPayload.bindings, List.flatMap_map]
  cases hhome : host.home with
  | none =>
    rw [List.flatMap_eq_nil_iff.mpr (by simp [buildBinding, hhome])]
    exact List.nodup_nil
  | some home =>
    have hhomes : (payload.workspaces.flatMap fun request =>
        (buildBinding files host request.1 request.2).codexHomes.flatMap fun home =>
          ((files.codexHome home).getD []).map Transcript.path) =
        (payload.workspaces.flatMap fun request =>
          if request.2 = "" then []
          else codexHomeNamesOf files host home request.1 request.2).flatMap fun name =>
            ((files.codexHome (codexHomesRoot home ++ "/" ++ name)).getD []).map
              Transcript.path := by
      rw [List.flatMap_assoc]
      refine List.flatMap_congr fun request hrequest => ?_
      by_cases hdir : request.2 = ""
      · simp [buildBinding, hdir]
      · rw [codexHomes_buildBinding hfiles hhome (hplain request hrequest) hdir, if_neg hdir,
          List.flatMap_map]
    rw [hhomes]
    refine nodup_listing (fun dir => ((files.codexHome dir).getD []).map Transcript.path)
      ?_ ?_ ?_ ?_
    · rw [List.nodup_flatMap]
      constructor
      · intro request _
        split
        · exact List.nodup_nil
        · exact nodup_codexHomeNamesOf hfiles _ _ _
      · rw [List.Nodup, List.pairwise_map] at hnames
        refine hnames.imp fun {a b} hne => ?_
        dsimp only [Function.onFun]
        split
        · exact List.disjoint_nil_left _
        · split
          · exact List.disjoint_nil_right _
          · exact disjoint_codexHomeNamesOf hne
    · intro name hname
      obtain ⟨request, hrequest, hname⟩ := List.mem_flatMap.mp hname
      split at hname
      · exact absurd hname List.not_mem_nil
      · exact slash_notMem_codexHomeNamesOf hfiles (hplain request hrequest) hname
    · exact fun dir => (hfiles.codexHome dir).1
    · intro dir path hpath
      obtain ⟨file, hfile, rfl⟩ := List.mem_map.mp hpath
      exact (hfiles.codexHome dir).2 file hfile

lemma not_under_both {a b path : String} (ha : Under (projectsRoot home ++ "/" ++ a) path)
    (hb : Under (codexHomesRoot home ++ "/" ++ b) path) : False := by
  have hfront : ∃ front : String,
      Path.join home ".claude" = front ++ ".claude" ∧ Path.join home ".ax" = front ++ ".ax" := by
    by_cases hlast : home.toList.getLast? = none ∨ home.toList.getLast? = some '/'
    · exact ⟨home, by rw [Path.join, if_neg (by decide), if_pos hlast],
        by rw [Path.join, if_neg (by decide), if_pos hlast]⟩
    · exact ⟨home ++ "/", by rw [Path.join, if_neg (by decide), if_neg hlast],
        by rw [Path.join, if_neg (by decide), if_neg hlast]⟩
  obtain ⟨front, hclaude, hax⟩ := hfront
  have hprojects : projectsRoot home = front ++ ".claude" ++ "/" ++ "projects" := by
    rw [projectsRoot, hclaude]
    exact join_name (c := 'e') (by simp [String.toList_append]) (by decide) (by decide)
  have hcodex : codexHomesRoot home = front ++ ".ax" ++ "/" ++ "codex" := by
    rw [codexHomesRoot, hax]
    exact join_name (c := 'x') (by simp [String.toList_append]) (by decide) (by decide)
  obtain ⟨rest, rfl⟩ := ha
  obtain ⟨rest', heq⟩ := hb
  have hlists := congrArg String.toList heq
  simp only [hprojects, hcodex, String.toList_append, List.append_assoc] at hlists
  have hrest := List.append_cancel_left hlists
  simp at hrest

end Request

/-! ## Paths of counted transcripts -/

lemma transcript_finishScan {agg : Aggregator} {finished : TranscriptSeries}
    (h : finishScan agg series = some finished) : finished.transcript = series.transcript := by
  have hnamed : (if series.agent = "" then { series with agent := "main" }
      else series).transcript = series.transcript := by
    split <;> rfl
  unfold finishScan at h
  generalize (if series.agent = "" then { series with agent := "main" } else series) = named
    at h hnamed
  dsimp only at h
  split at h
  · cases h
  · obtain rfl := Option.some.inj h
    exact hnamed

lemma transcript_identify {file : Transcript ParsedRecord} (h : identify file = some series) :
    series.transcript = file.path := by
  have hmerge (records : List ParsedRecord) (series : TranscriptSeries) :
      (records.foldl mergeSeriesMetadata series).transcript = series.transcript := by
    induction records generalizing series with
    | nil => rfl
    | cons record records ih => exact ih (mergeSeriesMetadata series record)
  obtain ⟨scanned, hscan, rfl⟩ := Option.map_eq_some_iff.mp h
  obtain ⟨finished, hfinish, rfl⟩ := Option.map_eq_some_iff.mp hscan
  rw [(foldl_scanRecord_eq _ _ _).2] at hfinish
  exact (transcript_finishScan hfinish).trans (hmerge _ _)

lemma transcript_identifyCodex {file : Transcript CodexLine}
    (h : identifyCodex file = some series) : series.transcript = file.path := by
  have hscanned (query : HistoryQuery) (lines : List CodexLine) (scan : Scan) :
      (lines.foldl (scanCodexLine query) scan).series.transcript = scan.series.transcript := by
    induction lines generalizing scan with
    | nil => rfl
    | cons line lines ih =>
      rw [List.foldl_cons, ih]
      cases line <;> rfl
  obtain ⟨scanned, hscan, rfl⟩ := Option.map_eq_some_iff.mp h
  obtain ⟨finished, hfinish, rfl⟩ := Option.map_eq_some_iff.mp hscan
  simp only [finishCodexScan] at hfinish
  split at hfinish
  · cases hfinish
  · obtain rfl := Option.some.inj hfinish
    exact hscanned _ _ _

def counted (files : UsageFiles) (query : HistoryQuery) (bindings : List WorkspaceBinding) :
    List String :=
  (attributedSeries files query bindings).flatMap fun entry =>
    entry.2.map TranscriptSeries.transcript

lemma mem_knownTranscripts {files : UsageFiles} {bindings : List WorkspaceBinding}
    {known : Transcript ParsedRecord × TranscriptSeries}
    (h : known ∈ knownTranscripts files bindings) :
    known.1 ∈ scannedFiles files bindings ∧ identify known.1 = some known.2 := by
  obtain ⟨file, hfile, hknown⟩ := List.mem_filterMap.mp h
  obtain ⟨series, hseries, rfl⟩ := Option.map_eq_some_iff.mp hknown
  exact ⟨hfile, hseries⟩

lemma mem_codexTranscripts {files : UsageFiles} {binding : WorkspaceBinding}
    {known : Transcript CodexLine × TranscriptSeries} (h : known ∈ codexTranscripts files binding) :
    (∃ home ∈ binding.codexHomes, known.1 ∈ (files.codexHome home).getD []) ∧
      identifyCodex known.1 = some known.2 := by
  obtain ⟨file, hfile, hknown⟩ := List.mem_filterMap.mp h
  obtain ⟨series, hseries, rfl⟩ := Option.map_eq_some_iff.mp hknown
  exact ⟨List.mem_flatMap.mp hfile, hseries⟩

lemma map_path_sublist {α : Type} (identifyFile : Transcript α → Option TranscriptSeries)
    (files : List (Transcript α)) :
    ((files.filterMap fun file => (identifyFile file).map fun series => (file, series)).map
      fun known => known.1.path).Sublist (files.map Transcript.path) := by
  induction files with
  | nil => exact List.Sublist.slnil
  | cons file files ih =>
    rw [List.filterMap_cons]
    cases identifyFile file with
    | none => exact ih.cons _
    | some series => exact ih.cons_cons _

lemma perm_map_transcript_seriesOf (files : UsageFiles) (query : HistoryQuery)
    (bindings : List WorkspaceBinding) (binding : WorkspaceBinding) :
    ((seriesOf files query bindings binding).map TranscriptSeries.transcript).Perm
      ((claudeTranscripts files bindings binding.name).map (fun known => known.1.path) ++
        ((codexTranscripts files binding).filter fun known =>
          !writtenBefore query known.1).map fun known => known.1.path) := by
  refine ((perm_seriesOf files query bindings binding).map _).trans (List.Perm.of_eq ?_)
  rw [List.map_append, List.map_map, List.map_map]
  congr 1
  · refine List.map_congr_left fun known hknown => ?_
    have hpath : known.2.transcript = known.1.path :=
      transcript_identify (mem_knownTranscripts (List.mem_filter.mp hknown).1).2
    exact hpath
  · refine List.map_congr_left fun known hknown => ?_
    have hpath : known.2.transcript = known.1.path :=
      transcript_identifyCodex (mem_codexTranscripts (List.mem_filter.mp hknown).1).2
    exact hpath

/-! ## The transcripts of a request -/

/-- The directory of the workspace is the recorded one. -/
def Denotes (dir recorded : String) : Prop :=
  normalizePath dir = normalizePath recorded

/-- A transcript is of a workspace: by its directory, or by a hint in it or in a transcript of its
session. -/
def Names (files : UsageFiles) (bindings : List WorkspaceBinding) (binding : WorkspaceBinding)
    (series : TranscriptSeries) : Prop :=
  Denotes binding.dir series.cwd ∨ binding.name ≠ "" ∧
    (series.workspaceHint = binding.name ∨
      series.sessionId ≠ "" ∧ ∃ known ∈ knownTranscripts files bindings,
        known.2.workspaceHint = binding.name ∧ known.2.sessionId = series.sessionId)

/-- Every transcript is counted once at most, and for a workspace that it names. -/
structure CountsSoundly (files : UsageFiles) (query : HistoryQuery)
    (bindings : List WorkspaceBinding) : Prop where
  once : (counted files query bindings).Nodup
  only : ∀ entry ∈ attributedSeries files query bindings, ∀ series ∈ entry.2,
    Names files bindings entry.1 series

lemma denotes_of_cleanPath {recorded : String} (h : cleanPath dir = cleanPath recorded) :
    Denotes dir recorded := by
  unfold cleanPath at h
  unfold Denotes normalizePath
  rw [h]

section Sound

variable {files : UsageFiles} {host : UsageHost} {payload : UsageTrendsPayload}
  {query : HistoryQuery} {bindings : List WorkspaceBinding}

/-- A transcript of Claude that is counted for some workspace. -/
def Counts (files : UsageFiles) (bindings : List WorkspaceBinding)
    (file : Transcript ParsedRecord) : Prop :=
  ∃ series name, identify file = some series ∧
    Placed bindings ((knownTranscripts files bindings).map Prod.snd) series name

/-- A session of Codex that is counted for the workspaces in whose homes it is found. -/
def CountsSession (query : HistoryQuery) (file : Transcript CodexLine) : Prop :=
  writtenBefore query file = false ∧ ∃ series, identifyCodex file = some series

/-- Where two requested directories have one project directory, none of its transcripts counts. -/
def ProjectsDiscerned (files : UsageFiles) (host : UsageHost) (payload : UsageTrendsPayload) :
    Prop :=
  ∀ a ∈ payload.workspaces, ∀ b ∈ payload.workspaces, a.2 ≠ "" → b.2 ≠ "" → a.2 ≠ b.2 →
    encodeProjectKey (normalizePath a.2) = encodeProjectKey (normalizePath b.2) →
    ∀ home, host.home = some home → ∀ file ∈ (files.project (claudeProjectPath home a.2)).getD [],
      ¬Counts files (payload.bindings files host) file

/-- No session that counts is found in two of the homes. -/
def SessionsDiscerned (files : UsageFiles) (query : HistoryQuery)
    (bindings : List WorkspaceBinding) : Prop :=
  (bindings.flatMap WorkspaceBinding.codexHomes).Pairwise fun home home' =>
    ∀ file ∈ (files.codexHome home).getD [], ∀ file' ∈ (files.codexHome home').getD [],
      CountsSession query file → CountsSession query file' → file.path ≠ file'.path

/-- No file counts as a transcript of Claude and as a session of Codex. -/
def KindsDiscerned (files : UsageFiles) (query : HistoryQuery)
    (bindings : List WorkspaceBinding) : Prop :=
  ∀ file ∈ scannedFiles files bindings, Counts files bindings file →
    ∀ home ∈ bindings.flatMap WorkspaceBinding.codexHomes,
      ∀ session ∈ (files.codexHome home).getD [], CountsSession query session →
        file.path ≠ session.path

/-- The sessions that count for a workspace name it. -/
def SessionsNamed (files : UsageFiles) (query : HistoryQuery)
    (bindings : List WorkspaceBinding) : Prop :=
  ∀ binding ∈ bindings, ∀ known ∈ codexTranscripts files binding,
    writtenBefore query known.1 = false → Names files bindings binding known.2

/-! ## Counted once -/

def pathsOf (files : UsageFiles) (bindings : List WorkspaceBinding) (name projectDir : String) :
    List String :=
  ((((files.project projectDir).getD []).filterMap fun file =>
      (identify file).map fun series => (file, series)).filter fun known =>
    workspaceOf bindings ((knownTranscripts files bindings).map Prod.snd) known.2 = some name).map
      fun known => known.1.path

lemma map_path_claudeTranscripts (name : String) :
    (claudeTranscripts files bindings name).map (fun known => known.1.path) =
      (projectDirs bindings).toList.flatMap fun entry => pathsOf files bindings name entry.2 := by
  have hknown : knownTranscripts files bindings = (projectDirs bindings).toList.flatMap fun entry =>
      ((files.project entry.2).getD []).filterMap fun file =>
        (identify file).map fun series => (file, series) := by
    rw [knownTranscripts, scannedFiles, BTreeMap.vals, List.flatMap_map, List.filterMap_flatMap]
  unfold claudeTranscripts pathsOf
  generalize (knownTranscripts files bindings).map Prod.snd = all
  rw [hknown, List.filter_flatMap, List.map_flatMap]

section Distinct

variable (hnames : (bindings.map WorkspaceBinding.name).Nodup)
include hnames

lemma mem_pathsOf {name projectDir path : String} :
    path ∈ pathsOf files bindings name projectDir ↔
      ∃ file ∈ (files.project projectDir).getD [], ∃ series, identify file = some series ∧
        Placed bindings ((knownTranscripts files bindings).map Prod.snd) series name ∧
        file.path = path := by
  simp only [pathsOf, List.mem_map, List.mem_filter, List.mem_filterMap, Option.map_eq_some_iff,
    decide_eq_true_eq, workspaceOf_eq_some_iff hnames]
  constructor
  · rintro ⟨_, ⟨⟨file, hfile, series, hseries, rfl⟩, hplaced⟩, rfl⟩
    exact ⟨file, hfile, series, hseries, hplaced, rfl⟩
  · rintro ⟨file, hfile, series, hseries, hplaced, rfl⟩
    exact ⟨_, ⟨⟨file, hfile, series, hseries, rfl⟩, hplaced⟩, rfl⟩

end Distinct

section Request

variable (hfiles : files.WellFormed)
  (hnames : ((payload.bindings files host).map WorkspaceBinding.name).Nodup)
include hfiles hnames

omit hfiles in
lemma discerned_of_nodup
    (hnodup : ∀ binding ∈ payload.bindings files host,
      ((claudeTranscripts files (payload.bindings files host) binding.name).map
        fun known => known.1.path).Nodup) : ProjectsDiscerned files host payload := by
  rintro a ha b hb hneA hneB hne hkey home hhome file hfile ⟨series, name, hseries, hplaced⟩
  obtain ⟨binding, hbinding, rfl⟩ := List.mem_map.mp (hplaced.mem_names hnames)
  have hdirs := hnodup binding hbinding
  rw [map_path_claudeTranscripts, List.nodup_flatMap] at hdirs
  have hsame : claudeProjectPath home b.2 = claudeProjectPath home a.2 := by
    rw [claudeProjectPath_eq, claudeProjectPath_eq, hkey]
  have hentry (dir : String) (hrequested : ∃ name, (name, dir) ∈ payload.workspaces)
      (hdir : dir ≠ "") (hsame : claudeProjectPath home dir = claudeProjectPath home a.2) :
      (dir, claudeProjectPath home a.2) ∈ (projectDirs (payload.bindings files host)).toList :=
    Std.ExtTreeMap.mem_toList_iff_getElem?_eq_some.mpr
      (projectDirs_request_iff.mpr ⟨hdir, hrequested, home, hhome, hsame.symm⟩)
  have hpath : file.path ∈ pathsOf files (payload.bindings files host) binding.name
      (claudeProjectPath home a.2) :=
    (mem_pathsOf hnames).mpr ⟨file, hfile, series, hseries, hplaced, rfl⟩
  have hsymm : Std.Symm (Function.onFun List.Disjoint fun entry : String × String =>
      pathsOf files (payload.bindings files host) binding.name entry.2) := ⟨fun _ _ h => h.symm⟩
  refine hdirs.2.forall (hentry a.2 ⟨_, ha⟩ hneA rfl) (hentry b.2 ⟨_, hb⟩ hneB hsame) ?_ hpath hpath
  exact fun h => hne (congrArg Prod.fst h)

lemma nodup_of_discerned (hdiscerned : ProjectsDiscerned files host payload) (name : String) :
    ((claudeTranscripts files (payload.bindings files host) name).map
      fun known => known.1.path).Nodup := by
  rw [map_path_claudeTranscripts, List.nodup_flatMap]
  constructor
  · intro entry _
    refine (hfiles.project entry.2).1.sublist ((List.filter_sublist.map _).trans ?_)
    exact map_path_sublist identify _
  · refine (BTreeMap.nodup_map_fst_toList _).of_map.pairwise_of_forall_ne fun a ha b hb hne => ?_
    intro path hpathA hpathB
    obtain ⟨file, hfile, series, hseries, hplaced, rfl⟩ := (mem_pathsOf hnames).mp hpathA
    obtain ⟨file', hfile', -, -, -, hpath⟩ := (mem_pathsOf hnames).mp hpathB
    rw [Std.ExtTreeMap.mem_toList_iff_getElem?_eq_some] at ha hb
    obtain ⟨hkey, hdir, -⟩ := projectDir_eq_of_path hfiles ha hb hfile hfile' hpath.symm
    obtain ⟨hneA, ⟨nameA, hmemA⟩, home, hhome, hproject⟩ := projectDirs_request_iff.mp ha
    obtain ⟨hneB, ⟨nameB, hmemB⟩, -⟩ := projectDirs_request_iff.mp hb
    refine hdiscerned _ hmemA _ hmemB hneA hneB (fun h => hne (Prod.ext h hdir)) hkey home hhome
      file (hproject ▸ hfile) ⟨series, name, hseries, hplaced⟩

lemma nodup_claudeTranscripts_iff :
    ((payload.bindings files host).flatMap fun binding =>
      (claudeTranscripts files (payload.bindings files host) binding.name).map
        fun known => known.1.path).Nodup ↔ ProjectsDiscerned files host payload := by
  rw [List.nodup_flatMap]
  refine ⟨fun h => discerned_of_nodup hnames h.1, fun h =>
    ⟨fun binding _ => nodup_of_discerned hfiles hnames h binding.name, ?_⟩⟩
  have hdistinct := hnames
  rw [List.Nodup, List.pairwise_map] at hdistinct
  refine hdistinct.imp fun {a b} hne path ha hb => hne ?_
  dsimp only at ha hb
  rw [map_path_claudeTranscripts, List.mem_flatMap] at ha hb
  obtain ⟨entry, hentry, hpath⟩ := ha
  obtain ⟨entry', hentry', hpath'⟩ := hb
  obtain ⟨file, hfile, series, hseries, hplaced, rfl⟩ := (mem_pathsOf hnames).mp hpath
  obtain ⟨file', hfile', series', hseries', hplaced', hsame⟩ := (mem_pathsOf hnames).mp hpath'
  rw [Std.ExtTreeMap.mem_toList_iff_getElem?_eq_some] at hentry hentry'
  obtain ⟨-, -, rfl⟩ := projectDir_eq_of_path hfiles hentry hentry' hfile hfile' hsame.symm
  obtain rfl := Option.some.inj (hseries.symm.trans hseries')
  rw [← workspaceOf_eq_some_iff hnames] at hplaced hplaced'
  exact Option.some.inj (hplaced.symm.trans hplaced')

end Request

def sessionsOf (files : UsageFiles) (query : HistoryQuery) (home : String) : List String :=
  ((((files.codexHome home).getD []).filterMap fun file =>
      (identifyCodex file).map fun series => (file, series)).filter fun known =>
    !writtenBefore query known.1).map fun known => known.1.path

lemma mem_sessionsOf {home path : String} : path ∈ sessionsOf files query home ↔
    ∃ file ∈ (files.codexHome home).getD [], CountsSession query file ∧ file.path = path := by
  simp only [sessionsOf, List.mem_map, List.mem_filter, List.mem_filterMap,
    Option.map_eq_some_iff, Bool.not_eq_true', CountsSession]
  constructor
  · rintro ⟨_, ⟨⟨file, hfile, series, hseries, rfl⟩, hwritten⟩, rfl⟩
    exact ⟨file, hfile, ⟨hwritten, series, hseries⟩, rfl⟩
  · rintro ⟨file, hfile, ⟨hwritten, series, hseries⟩, rfl⟩
    exact ⟨_, ⟨⟨file, hfile, series, hseries, rfl⟩, hwritten⟩, rfl⟩

lemma map_path_codexTranscripts (bindings : List WorkspaceBinding) :
    (bindings.flatMap fun binding => ((codexTranscripts files binding).filter fun known =>
      !writtenBefore query known.1).map fun known => known.1.path) =
      (bindings.flatMap WorkspaceBinding.codexHomes).flatMap (sessionsOf files query) := by
  rw [List.flatMap_assoc]
  refine List.flatMap_congr fun binding _ => ?_
  rw [codexTranscripts, List.filterMap_flatMap, List.filter_flatMap, List.map_flatMap]
  rfl

lemma nodup_sessions_iff (hfiles : files.WellFormed) :
    ((bindings.flatMap WorkspaceBinding.codexHomes).flatMap (sessionsOf files query)).Nodup ↔
      SessionsDiscerned files query bindings := by
  rw [List.nodup_flatMap, SessionsDiscerned, and_iff_right]
  · refine List.Pairwise.iff fun home home' => ?_
    simp only [Function.onFun, List.Disjoint, mem_sessionsOf]
    constructor
    · intro h file hfile file' hfile' hcounts hcounts' hpath
      exact h ⟨file, hfile, hcounts, rfl⟩ ⟨file', hfile', hcounts', hpath.symm⟩
    · rintro h _ ⟨file, hfile, hcounts, rfl⟩ ⟨file', hfile', hcounts', hpath⟩
      exact h file hfile file' hfile' hcounts hcounts' hpath.symm
  · intro home _
    refine (hfiles.codexHome home).1.sublist ((List.filter_sublist.map _).trans ?_)
    exact map_path_sublist identifyCodex _

lemma disjoint_kinds_iff (hnames : (bindings.map WorkspaceBinding.name).Nodup) :
    (∀ a ∈ bindings.flatMap fun binding =>
        (claudeTranscripts files bindings binding.name).map fun known => known.1.path,
      ∀ b ∈ (bindings.flatMap WorkspaceBinding.codexHomes).flatMap (sessionsOf files query),
        a ≠ b) ↔ KindsDiscerned files query bindings := by
  constructor
  · rintro h file hfile ⟨series, name, hseries, hplaced⟩ home hhome session hsession hcounts
    obtain ⟨binding, hbinding, rfl⟩ := List.mem_map.mp (hplaced.mem_names hnames)
    refine h _
      (List.mem_flatMap.mpr ⟨binding, hbinding, List.mem_map.mpr ⟨(file, series), ?_, rfl⟩⟩)
      _ (List.mem_flatMap.mpr ⟨home, hhome, mem_sessionsOf.mpr ⟨session, hsession, hcounts, rfl⟩⟩)
    refine List.mem_filter.mpr ⟨List.mem_filterMap.mpr ⟨file, hfile, by simp [hseries]⟩, ?_⟩
    exact decide_eq_true ((workspaceOf_eq_some_iff hnames).mpr hplaced)
  · rintro h _ ha _ hb
    obtain ⟨binding, -, ha⟩ := List.mem_flatMap.mp ha
    obtain ⟨known, hknown, rfl⟩ := List.mem_map.mp ha
    obtain ⟨hknown, hof⟩ := List.mem_filter.mp hknown
    obtain ⟨hfile, hseries⟩ := mem_knownTranscripts hknown
    obtain ⟨home, hhome, hb⟩ := List.mem_flatMap.mp hb
    obtain ⟨session, hsession, hcounts, rfl⟩ := mem_sessionsOf.mp hb
    exact h _ hfile ⟨_, _, hseries, (workspaceOf_eq_some_iff hnames).mp (of_decide_eq_true hof)⟩ _
      hhome _ hsession hcounts

lemma nodup_counted_iff (hfiles : files.WellFormed)
    (hnames : ((payload.bindings files host).map WorkspaceBinding.name).Nodup) :
    (counted files query (payload.bindings files host)).Nodup ↔
      ProjectsDiscerned files host payload ∧
        SessionsDiscerned files query (payload.bindings files host) ∧
        KindsDiscerned files query (payload.bindings files host) := by
  rw [counted, attributedSeries_eq files query hnames, List.flatMap_map,
    (List.Perm.flatMap_left _ fun binding _ =>
      perm_map_transcript_seriesOf files query (payload.bindings files host) binding).nodup_iff,
    ← (List.flatMap_append_perm _ _ _).nodup_iff, map_path_codexTranscripts, List.nodup_append,
    nodup_claudeTranscripts_iff hfiles hnames, nodup_sessions_iff hfiles, disjoint_kinds_iff hnames]

/-! ## Names without separators -/

lemma under_of_mem_scannedFiles (hfiles : files.WellFormed) {file : Transcript ParsedRecord}
    (h : file ∈ scannedFiles files (payload.bindings files host)) :
    ∃ home key : String, host.home = some home ∧
      Under (projectsRoot home ++ "/" ++ key) file.path := by
  obtain ⟨projectDir, hdir, hfile⟩ := List.mem_flatMap.mp h
  obtain ⟨dir, hget⟩ := BTreeMap.mem_vals_iff.mp hdir
  obtain ⟨-, -, home, hhome, rfl⟩ := projectDirs_request_iff.mp hget
  refine ⟨home, encodeProjectKey (normalizePath dir), hhome, ?_⟩
  rw [← claudeProjectPath_eq]
  exact (hfiles.project _).2 file hfile

lemma under_of_mem_codexHomes (hfiles : files.WellFormed) (hplain : payload.PlainNames)
    {binding : WorkspaceBinding} (hbinding : binding ∈ payload.bindings files host)
    {dir : String} (hdir : dir ∈ binding.codexHomes) {file : Transcript CodexLine}
    (hfile : file ∈ (files.codexHome dir).getD []) :
    ∃ home name : String, host.home = some home ∧
      Under (codexHomesRoot home ++ "/" ++ name) file.path := by
  obtain ⟨request, hrequest, rfl⟩ := List.mem_map.mp hbinding
  cases hhome : host.home with
  | none => simp [buildBinding, hhome] at hdir
  | some home =>
    by_cases hcwd : request.2 = ""
    · simp [buildBinding, hcwd] at hdir
    · rw [codexHomes_buildBinding hfiles hhome (hplain request hrequest) hcwd] at hdir
      obtain ⟨name, -, rfl⟩ := List.mem_map.mp hdir
      exact ⟨home, name, rfl, (hfiles.codexHome _).2 file hfile⟩

lemma discerned_of_plainNames (hfiles : files.WellFormed)
    (hnames : (payload.workspaces.map Prod.fst).Nodup) (hplain : payload.PlainNames) :
    SessionsDiscerned files query (payload.bindings files host) ∧
      KindsDiscerned files query (payload.bindings files host) := by
  constructor
  · have hnodup := nodup_path_codexHomes host hfiles hnames hplain
    rw [← List.flatMap_assoc, List.nodup_flatMap] at hnodup
    refine hnodup.2.imp fun {home home'} h file hfile file' hfile' _ _ hpath => ?_
    exact h (List.mem_map_of_mem hfile) (hpath ▸ List.mem_map_of_mem hfile')
  · intro file hfile _ dir hdir session hsession _ hpath
    obtain ⟨binding, hbinding, hdir⟩ := List.mem_flatMap.mp hdir
    obtain ⟨home, key, hhome, hunder⟩ := under_of_mem_scannedFiles hfiles hfile
    obtain ⟨home', name, hhome', hunder'⟩ := under_of_mem_codexHomes hfiles hplain hbinding hdir
      hsession
    obtain rfl := Option.some.inj (hhome.symm.trans hhome')
    exact not_under_both hunder (hpath ▸ hunder')

/-! ## Counted for whom it names -/

lemma named_iff {bindings : List WorkspaceBinding}
    (hnames : (bindings.map WorkspaceBinding.name).Nodup) :
    (∀ entry ∈ attributedSeries files query bindings, ∀ series ∈ entry.2,
      Names files bindings entry.1 series) ↔ SessionsNamed files query bindings := by
  rw [attributedSeries_eq files query hnames, List.forall_mem_map]
  refine forall₂_congr fun binding hbinding => ?_
  simp only [(perm_seriesOf files query bindings binding).mem_iff, List.mem_append]
  constructor
  · intro h known hknown hwritten
    refine h (inQueryCodex query known) (.inr (List.mem_map_of_mem ?_))
    exact List.mem_filter.mpr ⟨hknown, by simp [hwritten]⟩
  · rintro h series (hclaude | hsession)
    · obtain ⟨known, hknown, rfl⟩ := List.mem_map.mp hclaude
      obtain ⟨-, hof⟩ := List.mem_filter.mp hknown
      rw [decide_eq_true_eq] at hof
      cases (workspaceOf_eq_some_iff hnames).mp hof with
      | hint _ _ hname hhint =>
        have hsame := hhint.2.1.symm.trans hname
        exact .inr ⟨hsame ▸ hhint.1, .inl hsame⟩
      | session _ hlast =>
        obtain ⟨hid, -, other, hother, hhint, hne, hsame⟩ := exists_of_lastHinted hnames hlast
        obtain ⟨known', hknown', rfl⟩ := List.mem_map.mp hother
        exact .inr ⟨hne, .inr ⟨hid, known', hknown', hhint, hsame⟩⟩
      | directory _ _ binding' hname _ howns =>
        obtain ⟨-, hbinding', hdir, -⟩ := howns
        obtain rfl := List.inj_on_of_nodup_map hnames hbinding' hbinding hname
        exact .inl (denotes_of_cleanPath hdir)
    · obtain ⟨known, hknown, rfl⟩ := List.mem_map.mp hsession
      obtain ⟨hknown, hwritten⟩ := List.mem_filter.mp hknown
      exact h known hknown (by simpa using hwritten)

end Sound

def dashedFiles : UsageFiles where
  project dir :=
    if dir = "/h/.claude/projects/-w-a-b" then
      some [{
        path := "/h/.claude/projects/-w-a-b/s.jsonl", modified := seconds 20
        lines := [{
          sessionId := "s", cwd := "/w/a-b", timestamp := some (seconds 10), requestId := "r"
          model := "m", tokens := ⟨5, 0, 0, 0⟩, hasUsage := true }] }]
    else none
  codexHome _ := none
  codexHomeNames := []

lemma wellFormed_dashedFiles : dashedFiles.WellFormed where
  project dir := by
    by_cases hdir : dir = "/h/.claude/projects/-w-a-b"
    · subst hdir
      refine ⟨by decide, fun file hfile => ⟨"s.jsonl", ?_⟩⟩
      simp only [dashedFiles, if_true, Option.getD_some, List.mem_singleton] at hfile
      subst hfile
      decide
    · simp [dashedFiles, hdir]
  codexHome home := by simp [dashedFiles]
  codexHomeNames := by simp [dashedFiles]

end Ax.Usage
