import Ax.Usage.History

/-!
# Attribution of transcripts

What a query finds for a workspace does not depend on its window, apart from
the contents of the buckets and from Codex sessions that were last written
before the window.  The transcripts of a workspace are described here without
the window: who wrote them, and the effects of their records.

Main results:

- Theorem `perm_assignSeries`: which transcripts a workspace gets.
- Theorem `perm_seriesOf`: the transcripts of every workspace of a request.
-/

namespace Ax.Usage

/-! ## Effects of records -/

variable {query : HistoryQuery}

lemma countCodexEffect_eq {effect : IngestResult} (hmcp : effect.mcpDelta = 0)
    (query : HistoryQuery) (ts : Timestamp) (buckets : Buckets) :
    countCodexEffect query ts effect buckets = countEffect query ts effect buckets := by
  simp [countCodexEffect, countEffect, Bucket.addMcp, hmcp]

/-- The effects of records, with their times. -/
def effectsFrom (agg : Aggregator) : List ParsedRecord → List (Timestamp × IngestResult)
  | [] => []
  | record :: records =>
    (record.timestamp.map fun ts => (ts, (agg.ingest record).2)).toList ++
      effectsFrom (agg.ingest record).1 records

/-- The buckets after all of the effects. -/
def countAll (query : HistoryQuery) (effects : List (Timestamp × IngestResult))
    (buckets : Buckets) : Buckets :=
  effects.foldl (fun buckets effect => countEffect query effect.1 effect.2 buckets) buckets

lemma buckets_foldl_scanRecord (records : List ParsedRecord) (scan : Scan) :
    (records.foldl (scanRecord query) scan).buckets =
      countAll query (effectsFrom scan.agg records) scan.buckets := by
  induction records generalizing scan with
  | nil => rfl
  | cons record records ih =>
    rw [List.foldl_cons, ih]
    cases htime : record.timestamp with
    | none => simp [scanRecord, effectsFrom, htime]
    | some ts => simp [scanRecord, effectsFrom, htime, countAll]

/-- The records that lines of Codex stand for. -/
def codexRecords (sessionId cwd : String) : List CodexLine → List ParsedRecord
  | [] => []
  | .sessionMeta sessionId' cwd' :: lines =>
    codexRecords (if sessionId = "" then sessionId' else sessionId)
      (if cwd = "" then cwd' else cwd) lines
  | .tokenCount timestamp delta :: lines =>
    parsedRecordFromCodex sessionId cwd timestamp delta :: codexRecords sessionId cwd lines
  | .other :: lines => codexRecords sessionId cwd lines

lemma mcpDelta_ingest_codex (agg : Aggregator) (sessionId cwd : String)
    (timestamp : Option Timestamp) (delta : Tokens) :
    (agg.ingest (parsedRecordFromCodex sessionId cwd timestamp delta)).2.mcpDelta = 0 := by
  simp [Aggregator.ingest, parsedRecordFromCodex, ParsedRecord.requestKey]

lemma buckets_foldl_scanCodexLine (lines : List CodexLine) (scan : Scan) :
    (lines.foldl (scanCodexLine query) scan).buckets =
      countAll query
        (effectsFrom scan.agg (codexRecords scan.series.sessionId scan.series.cwd lines))
        scan.buckets := by
  induction lines generalizing scan with
  | nil => rfl
  | cons line lines ih =>
    rw [List.foldl_cons, ih]
    cases line with
    | sessionMeta sessionId cwd => rfl
    | other => rfl
    | tokenCount timestamp delta =>
      have hmcp := mcpDelta_ingest_codex scan.agg scan.series.sessionId scan.series.cwd
        timestamp delta
      cases timestamp with
      | none => simp [scanCodexLine, codexRecords, effectsFrom, parsedRecordFromCodex]
      | some ts =>
        simp only [scanCodexLine, codexRecords, effectsFrom, countCodexEffect_eq hmcp]
        rfl

/-! ## One transcript without its buckets -/

def TranscriptSeries.withBuckets (series : TranscriptSeries) (buckets : List Bucket) :
    TranscriptSeries :=
  { series with buckets := buckets }

/-- The series of a transcript, without its buckets. -/
def identify (file : Transcript ParsedRecord) : Option TranscriptSeries :=
  (scanTranscript { since := 0, until_ := 0, bucketSize := 0 } file).map fun series =>
    series.withBuckets []

def claudeEffects (file : Transcript ParsedRecord) : List (Timestamp × IngestResult) :=
  effectsFrom {} file.lines

variable (query)

lemma foldl_scanRecord_eq (records : List ParsedRecord) (scan : Scan) :
    (records.foldl (scanRecord query) scan).agg = (scan.agg.ingestFrom records).1 ∧
      (records.foldl (scanRecord query) scan).series =
        records.foldl mergeSeriesMetadata scan.series := by
  induction records generalizing scan with
  | nil => exact ⟨rfl, rfl⟩
  | cons record records ih => exact ih (scanRecord query scan record)

lemma scanTranscript_eq (file : Transcript ParsedRecord) :
    scanTranscript query file = (identify file).map fun series =>
      series.withBuckets (countAll query (claudeEffects file) KeyedMap.empty).values := by
  have hscan (query : HistoryQuery) := foldl_scanRecord_eq query file.lines
    { series := { agent := agentFromTranscriptPath file.path, transcript := file.path } }
  simp only [identify, scanTranscript, (hscan _).1, (hscan _).2, buckets_foldl_scanRecord,
    Option.map_map]
  rfl

def identifyCodex (file : Transcript CodexLine) : Option TranscriptSeries :=
  (scanCodexTranscript { since := 0, until_ := 0, bucketSize := 0 } file).map fun series =>
    series.withBuckets []

def codexEffects (file : Transcript CodexLine) : List (Timestamp × IngestResult) :=
  effectsFrom {} (codexRecords "" "" file.lines)

lemma foldl_scanCodexLine_eq (query query' : HistoryQuery) (lines : List CodexLine)
    (scan scan' : Scan) (hagg : scan.agg = scan'.agg) (hseries : scan.series = scan'.series) :
    (lines.foldl (scanCodexLine query) scan).agg =
        (lines.foldl (scanCodexLine query') scan').agg ∧
      (lines.foldl (scanCodexLine query) scan).series =
        (lines.foldl (scanCodexLine query') scan').series := by
  induction lines generalizing scan scan' with
  | nil => exact ⟨hagg, hseries⟩
  | cons line lines ih =>
    cases line with
    | sessionMeta sessionId cwd => exact ih _ _ hagg (by simp only [scanCodexLine, hseries])
    | tokenCount timestamp delta =>
      exact ih _ _ (by simp only [scanCodexLine, hagg, hseries])
        (by simp only [scanCodexLine, hseries])
    | other => exact ih _ _ hagg hseries

lemma scanCodexTranscript_eq (file : Transcript CodexLine) :
    scanCodexTranscript query file = (identifyCodex file).map fun series =>
      series.withBuckets (countAll query (codexEffects file) KeyedMap.empty).values := by
  have hscan := foldl_scanCodexLine_eq query { since := 0, until_ := 0, bucketSize := 0 }
    file.lines { series := { agent := codexAgentName, transcript := file.path } } _ rfl rfl
  simp only [identifyCodex, scanCodexTranscript, hscan.1, hscan.2, buckets_foldl_scanCodexLine,
    Option.map_map]
  rfl

/-! ## The transcripts of Claude -/

def addProjectDir (dirs : BTreeMap String String) (binding : WorkspaceBinding) :
    BTreeMap String String :=
  if dirs.contains binding.dir then dirs
  else
    match binding.claudeProjectDir with
    | none => dirs
    | some projectDir => dirs.insert binding.dir projectDir

/-- The first project directory of each directory. -/
def projectDirs (bindings : List WorkspaceBinding) : BTreeMap String String :=
  bindings.foldl addProjectDir ∅

/-- The transcripts of Claude, as they are scanned. -/
def scannedFiles (files : UsageFiles) (bindings : List WorkspaceBinding) :
    List (Transcript ParsedRecord) :=
  (projectDirs bindings).vals.flatMap fun projectDir => (files.project projectDir).getD []

variable (files : UsageFiles) (query : HistoryQuery)

lemma foldl_scanBinding (bindings : List WorkspaceBinding) :
    bindings.foldl (scanBinding files query) ∅ =
      (projectDirs bindings).map fun _ projectDir => scanProjectDir files query projectDir := by
  have hempty : (∅ : BTreeMap String DirScanState) =
      Std.ExtTreeMap.map (fun _ projectDir => scanProjectDir files query projectDir)
        (∅ : BTreeMap String String) := by
    refine BTreeMap.ext_get? fun k => ?_
    simp
  rw [hempty, projectDirs]
  refine List.foldl_hom _ fun dirs binding => ?_
  simp only [scanBinding, addProjectDir, Std.ExtTreeMap.contains_map]
  split
  · rfl
  · cases binding.claudeProjectDir with
    | none => rfl
    | some projectDir =>
      refine BTreeMap.ext_get? fun k => ?_
      rw [BTreeMap.get?_insert, Std.ExtTreeMap.getElem?_map, Std.ExtTreeMap.getElem?_map,
        BTreeMap.get?_insert]
      split <;> rfl

lemma flatMap_series_foldl_scanBinding (bindings : List WorkspaceBinding) :
    (bindings.foldl (scanBinding files query) ∅).vals.flatMap DirScanState.series =
      (scannedFiles files bindings).filterMap (scanTranscript query) := by
  have hseries (projectDir : String) : (scanProjectDir files query projectDir).series =
      ((files.project projectDir).getD []).filterMap (scanTranscript query) := by
    unfold scanProjectDir
    cases files.project projectDir <;> rfl
  rw [foldl_scanBinding, BTreeMap.vals, Std.ExtTreeMap.toList_map, scannedFiles, BTreeMap.vals,
    List.filterMap_flatMap]
  simp only [List.flatMap_map, hseries]

/-! ## Which workspace gets a transcript -/

lemma get?_foldl_assignTo (workspaceOf : TranscriptSeries → Option String)
    (series : List TranscriptSeries) (assignments : BTreeMap String (List TranscriptSeries))
    (name : String) :
    (series.foldl (assignTo workspaceOf) assignments)[name]?.getD [] =
      assignments[name]?.getD [] ++ series.filter fun s => workspaceOf s = some name := by
  induction series generalizing assignments with
  | nil => simp
  | cons s series ih =>
    rw [List.foldl_cons, ih]
    cases hof : workspaceOf s with
    | none => simp [hof, assignTo]
    | some found =>
      by_cases hname : name = found
      · simp [hof, hname, assignTo]
      · simp [hof, assignTo, BTreeMap.get?_insert, hname, Ne.symm hname]

/-- The workspace that a series is placed under. -/
def workspaceOf (bindings : List WorkspaceBinding) (all : List TranscriptSeries)
    (series : TranscriptSeries) : Option String :=
  (hintedWorkspace bindings series).or
    (unhintedWorkspace bindings (sessionWorkspace bindings all) series)

lemma perm_filter_append {α : Type} {p q : α → Bool} (l : List α)
    (h : ∀ a, ¬ (p a = true ∧ q a = true)) :
    (l.filter p ++ l.filter q).Perm (l.filter fun a => p a || q a) := by
  induction l with
  | nil => exact List.Perm.nil
  | cons a l ih =>
    cases hp : p a with
    | true =>
      have hq : q a = false := by
        simpa [hp] using h a
      simpa [hp, hq] using ih
    | false =>
      cases hq : q a with
      | false => simpa [hp, hq] using ih
      | true =>
        simp only [List.filter_cons, hp, hq]
        exact List.perm_middle.trans (ih.cons a)

variable {bindings : List WorkspaceBinding}

lemma unhintedWorkspace_eq_none {series : TranscriptSeries} {name : String}
    (h : hintedWorkspace bindings series = some name) (bySession : BTreeMap String String) :
    unhintedWorkspace bindings bySession series = none := by
  have hhint : series.workspaceHint ≠ "" := by
    intro hnone
    simp [hintedWorkspace, hnone] at h
  simp [unhintedWorkspace, hhint]

/-- A workspace gets the transcripts that belong to it, first those with hints. -/
theorem perm_assignSeries (bindings : List WorkspaceBinding) (series : List TranscriptSeries)
    (name : String) :
    ((assignSeries bindings series)[name]?.getD []).Perm
      (series.filter fun s => workspaceOf bindings series s = some name) := by
  rw [assignSeries, get?_foldl_assignTo, get?_foldl_assignTo, Std.ExtTreeMap.getElem?_empty,
    Option.getD_none, List.nil_append]
  refine (perm_filter_append series ?_).trans (List.Perm.of_eq (List.filter_congr ?_))
  · rintro s ⟨hhinted, hunhinted⟩
    rw [decide_eq_true_eq] at hhinted hunhinted
    rw [unhintedWorkspace_eq_none hhinted] at hunhinted
    cases hunhinted
  · intro s _
    rw [workspaceOf, Bool.eq_iff_iff, Bool.or_eq_true]
    simp only [decide_eq_true_eq]
    cases hhinted : hintedWorkspace bindings s with
    | none => simp
    | some found => simp [unhintedWorkspace_eq_none hhinted]

/-! ## The sessions of Codex -/

section Codex

variable {files : UsageFiles} {query : HistoryQuery}

lemma series_scanCodexHomes (binding : WorkspaceBinding) :
    (scanCodexHomes files query binding).series =
      (binding.codexHomes.flatMap fun home =>
        discoverCodexSessions ((files.codexHome home).getD []) query.since).filterMap
          (scanCodexTranscript query) := by
  have hhome (home : String) : (scanCodexForBinding files query home).series =
      (discoverCodexSessions ((files.codexHome home).getD []) query.since).filterMap
        (scanCodexTranscript query) := by
    unfold scanCodexForBinding
    cases files.codexHome home <;> rfl
  have hloop (homes : List String) (merged : CodexScanResult) :
      (homes.foldl (fun merged home =>
        let result := scanCodexForBinding files query home
        { homeExists := merged.homeExists || result.homeExists
          sessionsFound := merged.sessionsFound || result.sessionsFound
          series := merged.series ++ result.series }) merged).series =
        merged.series ++ homes.flatMap fun home =>
          (scanCodexForBinding files query home).series := by
    induction homes generalizing merged with
    | nil => simp
    | cons home homes ih => simp [ih]
  rw [scanCodexHomes, hloop, List.nil_append, List.filterMap_flatMap]
  simp only [hhome]

lemma get?_foldl_scanCodexBinding_of_ne {bindings : List WorkspaceBinding} {name : String}
    (hname : name ∉ bindings.map WorkspaceBinding.name)
    (codex : BTreeMap String (Bool × Bool) × BTreeMap String (List TranscriptSeries)) :
    (bindings.foldl (scanCodexBinding files query) codex).2[name]? = codex.2[name]? := by
  induction bindings generalizing codex with
  | nil => rfl
  | cons binding bindings ih =>
    rw [List.map_cons, List.mem_cons, not_or] at hname
    rw [List.foldl_cons, ih hname.2, scanCodexBinding]
    split
    · rfl
    · dsimp only
      split
      · rfl
      · rw [BTreeMap.get?_insert, if_neg hname.1]

lemma get?_foldl_scanCodexBinding {bindings : List WorkspaceBinding}
    (hnodup : (bindings.map WorkspaceBinding.name).Nodup)
    {codex : BTreeMap String (Bool × Bool) × BTreeMap String (List TranscriptSeries)}
    (hfresh : ∀ binding ∈ bindings, codex.2[binding.name]? = none)
    {binding : WorkspaceBinding} (hbinding : binding ∈ bindings) :
    (bindings.foldl (scanCodexBinding files query) codex).2[binding.name]?.getD [] =
      (scanCodexHomes files query binding).series := by
  induction bindings generalizing codex with
  | nil => exact absurd hbinding List.not_mem_nil
  | cons first bindings ih =>
    rw [List.map_cons, List.nodup_cons] at hnodup
    rw [List.foldl_cons]
    rcases List.mem_cons.mp hbinding with rfl | hrest
    · rw [get?_foldl_scanCodexBinding_of_ne hnodup.1, scanCodexBinding]
      have hnone := hfresh binding List.mem_cons_self
      split
      · next hempty =>
          rw [List.isEmpty_iff] at hempty
          simp [hnone, scanCodexHomes, hempty]
      · dsimp only
        split
        · next hseries =>
            rw [List.isEmpty_iff] at hseries
            rw [hnone, hseries, Option.getD_none]
        · rw [BTreeMap.get?_insert_self, Option.getD_some]
    · refine ih hnodup.2 ?_ hrest
      intro other hother
      have hne : other.name ≠ first.name := by
        intro heq
        exact hnodup.1 (heq ▸ List.mem_map_of_mem hother)
      have hnone := hfresh other (List.mem_cons_of_mem _ hother)
      rw [scanCodexBinding]
      split
      · exact hnone
      · dsimp only
        split
        · exact hnone
        · rw [BTreeMap.get?_insert, if_neg hne, hnone]

end Codex

lemma collectSeries_eq (hnodup : (bindings.map WorkspaceBinding.name).Nodup)
    (assignments codexSeries : BTreeMap String (List TranscriptSeries)) :
    collectSeries assignments codexSeries bindings = bindings.map fun binding =>
      (binding, assignments[binding.name]?.getD [] ++ codexSeries[binding.name]?.getD []) := by
  induction bindings generalizing codexSeries with
  | nil => rfl
  | cons binding bindings ih =>
    rw [List.map_cons, List.nodup_cons] at hnodup
    rw [collectSeries, ih hnodup.2, List.map_cons]
    congr 1
    refine List.map_congr_left fun other hother => ?_
    have hne : other.name ≠ binding.name := by
      intro heq
      exact hnodup.1 (heq ▸ List.mem_map_of_mem hother)
    rw [BTreeMap.get?_erase, if_neg hne]

/-! ## The transcripts of a workspace -/

def knownTranscripts (files : UsageFiles) (bindings : List WorkspaceBinding) :
    List (Transcript ParsedRecord × TranscriptSeries) :=
  (scannedFiles files bindings).filterMap fun file => (identify file).map fun series =>
    (file, series)

/-- The transcripts of Claude for a workspace. -/
def claudeTranscripts (files : UsageFiles) (bindings : List WorkspaceBinding) (name : String) :
    List (Transcript ParsedRecord × TranscriptSeries) :=
  (knownTranscripts files bindings).filter fun known =>
    workspaceOf bindings ((knownTranscripts files bindings).map Prod.snd) known.2 = some name

/-- The transcripts in the Codex homes of a workspace. -/
def codexTranscripts (files : UsageFiles) (binding : WorkspaceBinding) :
    List (Transcript CodexLine × TranscriptSeries) :=
  (binding.codexHomes.flatMap fun home => (files.codexHome home).getD []).filterMap fun file =>
    (identifyCodex file).map fun series => (file, series)

/-- The series of a transcript in the window of a query. -/
def inQuery (query : HistoryQuery) (known : Transcript ParsedRecord × TranscriptSeries) :
    TranscriptSeries :=
  known.2.withBuckets (countAll query (claudeEffects known.1) KeyedMap.empty).values

def inQueryCodex (query : HistoryQuery) (known : Transcript CodexLine × TranscriptSeries) :
    TranscriptSeries :=
  known.2.withBuckets (countAll query (codexEffects known.1) KeyedMap.empty).values

/-- The file is too old to be scanned. -/
def writtenBefore (query : HistoryQuery) (file : Transcript CodexLine) : Bool :=
  decide (0 < query.since.timestamp) && decide (file.modified < query.since)

lemma filterMap_scanTranscript (bindings : List WorkspaceBinding) :
    (scannedFiles files bindings).filterMap (scanTranscript query) =
      (knownTranscripts files bindings).map (inQuery query) := by
  rw [knownTranscripts, List.map_filterMap]
  refine List.filterMap_congr fun file _ => ?_
  rw [scanTranscript_eq, Option.map_map]
  rfl

lemma filterMap_scanCodexTranscript (sessions : List (Transcript CodexLine)) :
    (discoverCodexSessions sessions query.since).filterMap (scanCodexTranscript query) =
      ((sessions.filterMap fun file => (identifyCodex file).map fun series =>
        (file, series)).filter fun known => !writtenBefore query known.1).map
          (inQueryCodex query) := by
  have hdiscover (sessions : List (Transcript CodexLine)) :
      discoverCodexSessions sessions query.since =
        sessions.filter fun file => !writtenBefore query file := rfl
  rw [hdiscover]
  induction sessions with
  | nil => rfl
  | cons file sessions ih =>
    have hscan := scanCodexTranscript_eq query file
    cases hbefore : writtenBefore query file <;> cases hidentify : identifyCodex file <;>
      simp [hbefore, hidentify, hscan, ih, inQueryCodex]

lemma workspaceOf_inQuery (bindings : List WorkspaceBinding)
    (all : List (Transcript ParsedRecord × TranscriptSeries))
    (known : Transcript ParsedRecord × TranscriptSeries) :
    workspaceOf bindings (all.map (inQuery query)) (inQuery query known) =
      workspaceOf bindings (all.map Prod.snd) known.2 := by
  have hsession : sessionWorkspace bindings (all.map (inQuery query)) =
      sessionWorkspace bindings (all.map Prod.snd) := by
    rw [sessionWorkspace, sessionWorkspace, List.foldl_map, List.foldl_map]
    rfl
  rw [workspaceOf, hsession]
  rfl

/-- The series of a workspace. -/
def seriesOf (files : UsageFiles) (query : HistoryQuery) (bindings : List WorkspaceBinding)
    (binding : WorkspaceBinding) : List TranscriptSeries :=
  (find files query bindings).assignments[binding.name]?.getD [] ++
    (scanCodexHomes files query binding).series

lemma attributedSeries_eq (hnodup : (bindings.map WorkspaceBinding.name).Nodup) :
    attributedSeries files query bindings =
      bindings.map fun binding => (binding, seriesOf files query bindings binding) := by
  rw [attributedSeries, collectSeries_eq hnodup]
  refine List.map_congr_left fun binding hbinding => ?_
  have hcodex :=
    @get?_foldl_scanCodexBinding files query bindings hnodup (∅, ∅) (by simp) binding hbinding
  rw [seriesOf, ← hcodex]
  rfl

lemma perm_seriesOf (bindings : List WorkspaceBinding) (binding : WorkspaceBinding) :
    (seriesOf files query bindings binding).Perm
      ((claudeTranscripts files bindings binding.name).map (inQuery query) ++
        ((codexTranscripts files binding).filter fun known =>
          !writtenBefore query known.1).map (inQueryCodex query)) := by
  refine List.Perm.append ?_ (List.Perm.of_eq ?_)
  · have hperm := perm_assignSeries bindings
      ((knownTranscripts files bindings).map (inQuery query)) binding.name
    simp only [find, flatMap_series_foldl_scanBinding, filterMap_scanTranscript]
    refine hperm.trans (List.Perm.of_eq ?_)
    rw [List.filter_map, claudeTranscripts]
    congr 1
    refine List.filter_congr fun known _ => ?_
    rw [Function.comp_apply, workspaceOf_inQuery]
  · rw [series_scanCodexHomes, codexTranscripts, List.filterMap_flatMap, List.filterMap_flatMap,
      List.filter_flatMap, List.map_flatMap]
    simp only [filterMap_scanCodexTranscript]

end Ax.Usage
