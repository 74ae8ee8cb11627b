import Mathlib.Data.List.Sort
import Ax.Foundation.Path
import Ax.Foundation.Sha1
import Ax.Foundation.Words
import Ax.Usage.Aggregator

/-!
# Usage history

A usage request names workspaces.  The transcripts of their agents are read from
the directories that the agents keep for them, each transcript is folded into
time buckets, transcripts are attributed to workspaces, and the buckets of a
workspace are merged by agent and then over all agents.

The lines of a transcript are given as they are parsed; lines that do not parse
are skipped by the source and do not occur.  Reading does not fail.  The bucket
size is in whole seconds.  Adding a duration to a date is not bounded here,
while a date that is made from seconds has to lie in the range of dates.

Main definitions:

- Definition `queryHistory`: the buckets and agents of every workspace.
- Definition `handleUsageTrends`: the answer to a request.
-/

namespace Ax.Usage

/-! ## Windows and buckets -/

structure HistoryQuery where
  since : Timestamp
  until_ : Timestamp
  bucketSize : Nat
deriving DecidableEq, Repr

/-- The first and the last second of the range of dates. -/
def minSeconds : Int := -8334601228800

@[inherit_doc minSeconds]
def maxSeconds : Int := 8210266876799

/-- `DateTime::from_timestamp`. -/
def fromTimestamp (secs : Int) : Option Timestamp :=
  if minSeconds ≤ secs ∧ secs ≤ maxSeconds then some (seconds secs) else none

/-- `chrono::Duration::from_std`. -/
def fromStd (secs : Nat) : Option Int :=
  if secs ≤ 9223372036854775 then some (seconds secs) else none

/-- An unsigned number of 64 bits read as a signed one. -/
def asI64 (n : Nat) : Int :=
  if n < 9223372036854775808 then n else n - 18446744073709551616

def truncateToBucket (ts : Timestamp) (bucket : Nat) : Timestamp :=
  let secs := asI64 bucket
  if secs = 0 then ts
  else
    let epoch := ts.timestamp
    (fromTimestamp (epoch - epoch % secs)).getD ts

def bucketDuration (bucket : Nat) : Int :=
  (fromStd bucket).getD 0

/-- The usage in one interval of time. -/
structure Bucket where
  start : Timestamp
  end_ : Timestamp
  tokens : Tokens := 0
  total : Int := 0
  mcpProxy : MCPProxyMetrics := 0
  turns : Int := 0
deriving DecidableEq, Repr

abbrev Buckets : Type := KeyedMap Timestamp Bucket Bucket.start

def HistoryQuery.inWindow (query : HistoryQuery) (ts : Timestamp) : Bool :=
  !(decide (ts < query.since) || decide (query.until_ ≤ ts))

def HistoryQuery.newBucket (query : HistoryQuery) (start : Timestamp) : Bucket :=
  { start := start, end_ := start + bucketDuration query.bucketSize }

def Bucket.addUsage (b : Bucket) (effect : IngestResult) : Bucket :=
  let b :=
    if effect.tokensDelta ≠ 0 then
      { b with
        tokens := b.tokens + effect.tokensDelta
        total := b.total + effect.tokensDelta.total }
    else b
  if effect.turnDelta ≠ 0 then { b with turns := b.turns + effect.turnDelta } else b

def Bucket.addMcp (b : Bucket) (effect : IngestResult) : Bucket :=
  if effect.mcpDelta ≠ 0 then { b with mcpProxy := b.mcpProxy + effect.mcpDelta } else b

def countEffect (query : HistoryQuery) (ts : Timestamp) (effect : IngestResult)
    (buckets : Buckets) : Buckets :=
  if !query.inWindow ts then buckets
  else if effect.turnDelta = 0 ∧ effect.tokensDelta = 0 ∧ effect.mcpDelta = 0 then buckets
  else
    let start := truncateToBucket ts query.bucketSize
    let b := (buckets.get start).getD (query.newBucket start)
    buckets.put ((b.addUsage effect).addMcp effect)

def countCodexEffect (query : HistoryQuery) (ts : Timestamp) (effect : IngestResult)
    (buckets : Buckets) : Buckets :=
  if !query.inWindow ts then buckets
  else if effect.turnDelta = 0 ∧ effect.tokensDelta = 0 then buckets
  else
    let start := truncateToBucket ts query.bucketSize
    let b := (buckets.get start).getD (query.newBucket start)
    buckets.put (b.addUsage effect)

/-! ## One transcript -/

structure Transcript (Line : Type) where
  path : String
  modified : Timestamp
  lines : List Line

/-- The latest state of a transcript, an agent or a workspace. -/
structure CurrentSnapshot where
  lastActivity : Option Timestamp := none
  currentContext : Tokens := 0
  currentTotal : Int := 0
  currentMcpProxy : MCPProxyMetrics := 0
  currentModel : String := ""
  cumulativeTotals : Tokens := 0
  cumulativeTotal : Int := 0
  cumulativeMcpProxy : MCPProxyMetrics := 0
  turns : Int := 0
deriving DecidableEq, Repr

structure TranscriptSeries where
  cwd : String := ""
  sessionId : String := ""
  agent : String := ""
  workspaceHint : String := ""
  transcript : String := ""
  current : CurrentSnapshot := {}
  buckets : List Bucket := []
deriving DecidableEq, Repr

def cleanPath (path : String) : String :=
  Text.trim path

/-- `str::strip_suffix`. -/
def stripEnd (end_ s : String) : Option String :=
  if end_.toList.isSuffixOf s.toList then
    some (String.ofList (s.toList.take (s.length - end_.length)))
  else none

def agentFromTranscriptPath (path : String) : String :=
  match Path.fileName path with
  | none => "main"
  | some base =>
    match (Text.stripStart "agent-" base).bind (stripEnd ".jsonl") with
    | some stripped => stripped
    | none => "main"

def mergeSeriesMetadata (series : TranscriptSeries) (record : ParsedRecord) : TranscriptSeries :=
  { series with
    sessionId := if series.sessionId = "" then record.sessionId else series.sessionId
    cwd := if series.cwd = "" ∧ record.cwd ≠ "" then cleanPath record.cwd else series.cwd
    agent := if record.agentId ≠ "" then record.agentId else series.agent
    workspaceHint :=
      if series.workspaceHint = "" then record.workspaceHint else series.workspaceHint }

/-- The latest state of a transcript. -/
def CurrentSnapshot.ofSnapshot (snap : Aggregator.Snapshot) : CurrentSnapshot :=
  { lastActivity := snap.lastActivity
    currentContext := snap.currentContext
    currentTotal := snap.currentContext.total
    currentMcpProxy := snap.currentMcp
    currentModel := snap.currentModel
    cumulativeTotals := snap.cumulativeTotals
    cumulativeTotal := snap.cumulativeTotals.total
    cumulativeMcpProxy := snap.cumulativeMcp
    turns := snap.turns }

structure Scan where
  agg : Aggregator := {}
  buckets : Buckets := KeyedMap.empty
  series : TranscriptSeries

/-- One line of a Claude transcript. -/
def scanRecord (query : HistoryQuery) (scan : Scan) (record : ParsedRecord) : Scan :=
  let (agg, effect) := scan.agg.ingest record
  { agg := agg
    series := mergeSeriesMetadata scan.series record
    buckets :=
      match record.timestamp with
      | none => scan.buckets
      | some ts => countEffect query ts effect scan.buckets }

def finishScan (agg : Aggregator) (series : TranscriptSeries) : Option TranscriptSeries :=
  let series := if series.agent = "" then { series with agent := "main" } else series
  let snap := agg.snapshot series.transcript
  if !snap.available ∧ series.workspaceHint = "" ∧ series.sessionId = "" ∧ series.cwd = "" then
    none
  else
    some { series with current := CurrentSnapshot.ofSnapshot snap }

def scanTranscript (query : HistoryQuery) (file : Transcript ParsedRecord) :
    Option TranscriptSeries :=
  let scan := file.lines.foldl (scanRecord query)
    { series := { agent := agentFromTranscriptPath file.path, transcript := file.path } }
  (finishScan scan.agg scan.series).map fun series =>
    { series with buckets := scan.buckets.values }

inductive CodexLine
  | sessionMeta (sessionId cwd : String)
  | tokenCount (timestamp : Option Timestamp) (delta : Tokens)
  | other
deriving DecidableEq, Repr

def codexAgentName : String := "codex"

def parsedRecordFromCodex (sessionId cwd : String) (timestamp : Option Timestamp)
    (delta : Tokens) : ParsedRecord :=
  { sessionId := sessionId, cwd := cwd, timestamp := timestamp, model := codexAgentName
    tokens := delta, hasUsage := true }

def scanCodexLine (query : HistoryQuery) (scan : Scan) (line : CodexLine) : Scan :=
  match line with
  | .sessionMeta sessionId cwd =>
    { scan with series := { scan.series with
        sessionId := if scan.series.sessionId = "" then sessionId else scan.series.sessionId
        cwd := if scan.series.cwd = "" then cwd else scan.series.cwd } }
  | .tokenCount timestamp delta =>
    let record :=
      parsedRecordFromCodex scan.series.sessionId scan.series.cwd timestamp delta
    let (agg, effect) := scan.agg.ingest record
    { scan with
      agg := agg
      buckets :=
        match timestamp with
        | none => scan.buckets
        | some ts => countCodexEffect query ts effect scan.buckets }
  | .other => scan

def finishCodexScan (agg : Aggregator) (series : TranscriptSeries) : Option TranscriptSeries :=
  let snap := agg.snapshot series.transcript
  if !snap.available ∧ series.sessionId = "" then none
  else some { series with current := CurrentSnapshot.ofSnapshot snap }

def scanCodexTranscript (query : HistoryQuery) (file : Transcript CodexLine) :
    Option TranscriptSeries :=
  let scan := file.lines.foldl (scanCodexLine query)
    { series := { agent := codexAgentName, transcript := file.path } }
  (finishCodexScan scan.agg scan.series).map fun series =>
    { series with buckets := scan.buckets.values }

/-! ## Rollups -/

/-- Whether a time is known and later than another. -/
def newerSnapshot : Option Timestamp → Option Timestamp → Bool
  | none, _ => false
  | some _, none => true
  | some c, some current => current < c

def mergeBucket (bucketSize : Nat) (byStart : Buckets) (bucket : Bucket) : Buckets :=
  match byStart.get bucket.start with
  | some entry =>
    byStart.put { entry with
      tokens := entry.tokens + bucket.tokens
      total := entry.total + bucket.total
      mcpProxy := entry.mcpProxy + bucket.mcpProxy
      turns := entry.turns + bucket.turns }
  | none =>
    byStart.put { bucket with
      end_ :=
        if bucket.end_.timestamp = 0 then bucket.start + bucketDuration bucketSize
        else bucket.end_ }

def aggregateBuckets (all : List (List Bucket)) (bucketSize : Nat) : List Bucket :=
  (all.flatten.foldl (mergeBucket bucketSize) KeyedMap.empty).values

def aggregateSnapshots (snaps : List CurrentSnapshot) : CurrentSnapshot :=
  snaps.foldl (fun current snap =>
    let newer := newerSnapshot snap.lastActivity current.lastActivity
    { currentContext := current.currentContext + snap.currentContext
      currentTotal := current.currentTotal + snap.currentTotal
      currentMcpProxy := current.currentMcpProxy + snap.currentMcpProxy
      cumulativeTotals := current.cumulativeTotals + snap.cumulativeTotals
      cumulativeTotal := current.cumulativeTotal + snap.cumulativeTotal
      cumulativeMcpProxy := current.cumulativeMcpProxy + snap.cumulativeMcpProxy
      turns := current.turns + snap.turns
      lastActivity := if newer then snap.lastActivity else current.lastActivity
      currentModel := if newer then snap.currentModel else current.currentModel }) {}

structure AgentHistory where
  agent : String
  available : Bool := true
  latestSessionId : String := ""
  latestTranscript : String := ""
  currentSnapshot : CurrentSnapshot := {}
  recentBuckets : List Bucket := []
  sourceTranscriptCount : Int := 0
deriving DecidableEq, Repr

abbrev Agents : Type := KeyedMap String AgentHistory AgentHistory.agent

def addSeries (bucketSize : Nat) (agents : Agents) (series : TranscriptSeries) : Agents :=
  let entry := (agents.get series.agent).getD { agent := series.agent }
  let entry := { entry with
    recentBuckets := aggregateBuckets [entry.recentBuckets, series.buckets] bucketSize
    sourceTranscriptCount := entry.sourceTranscriptCount + 1 }
  agents.put <|
    if newerSnapshot series.current.lastActivity entry.currentSnapshot.lastActivity then
      { entry with
        currentSnapshot := series.current
        latestSessionId := series.sessionId
        latestTranscript := series.transcript }
    else entry

def AgentHistory.Before (a b : AgentHistory) : Prop :=
  a.agent = "main" ∨ b.agent ≠ "main" ∧ a.agent ≤ b.agent

instance : DecidableRel AgentHistory.Before :=
  fun _ _ => inferInstanceAs (Decidable (_ ∨ _ ∧ _))

def buildAgentHistories (series : List TranscriptSeries) (bucketSize : Nat) :
    List AgentHistory :=
  (series.foldl (addSeries bucketSize) KeyedMap.empty).values.insertionSort AgentHistory.Before

structure WorkspaceHistory where
  workspace : String
  dir : String
  available : Bool := false
  unavailableReason : String := ""
  currentSnapshot : CurrentSnapshot := {}
  recentBuckets : List Bucket := []
  agents : List AgentHistory := []
deriving DecidableEq, Repr

/-! ## Attribution -/

structure WorkspaceBinding where
  name : String
  dir : String
  claudeProjectDir : Option String := none
  codexHomes : List String := []
deriving DecidableEq, Repr

structure UsageFiles where
  project : String → Option (List (Transcript ParsedRecord))
  codexHome : String → Option (List (Transcript CodexLine))
  codexHomeNames : List String

structure DirScanState where
  projectExists : Bool := false
  transcriptsFound : Bool := false
  series : List TranscriptSeries := []
deriving DecidableEq, Repr

def scanProjectDir (files : UsageFiles) (query : HistoryQuery) (projectDir : String) :
    DirScanState :=
  match files.project projectDir with
  | none => {}
  | some paths =>
    { projectExists := true
      transcriptsFound := !paths.isEmpty
      series := paths.filterMap (scanTranscript query) }

def scanBinding (files : UsageFiles) (query : HistoryQuery)
    (seenDirs : BTreeMap String DirScanState) (binding : WorkspaceBinding) :
    BTreeMap String DirScanState :=
  if seenDirs.contains binding.dir then seenDirs
  else
    match binding.claudeProjectDir with
    | none => seenDirs
    | some projectDir => seenDirs.insert binding.dir (scanProjectDir files query projectDir)

def discoverCodexSessions (sessions : List (Transcript CodexLine)) (since : Timestamp) :
    List (Transcript CodexLine) :=
  sessions.filter fun file => !(decide (0 < since.timestamp) && decide (file.modified < since))

structure CodexScanResult where
  homeExists : Bool := false
  sessionsFound : Bool := false
  series : List TranscriptSeries := []
deriving DecidableEq, Repr

def scanCodexForBinding (files : UsageFiles) (query : HistoryQuery) (home : String) :
    CodexScanResult :=
  match files.codexHome home with
  | none => {}
  | some sessions =>
    let paths := discoverCodexSessions sessions query.since
    { homeExists := true
      sessionsFound := !paths.isEmpty
      series := paths.filterMap (scanCodexTranscript query) }

def scanCodexHomes (files : UsageFiles) (query : HistoryQuery) (binding : WorkspaceBinding) :
    CodexScanResult :=
  binding.codexHomes.foldl (fun merged home =>
    let result := scanCodexForBinding files query home
    { homeExists := merged.homeExists || result.homeExists
      sessionsFound := merged.sessionsFound || result.sessionsFound
      series := merged.series ++ result.series }) {}

def uniqueByDir (bindings : List WorkspaceBinding) : BTreeMap String String :=
  bindings.foldl (fun byDir binding =>
    let dir := cleanPath binding.dir
    if dir = "" then byDir
    else
      match byDir[dir]? with
      | some existing => if existing ≠ binding.name then byDir.insert dir "" else byDir
      | none => byDir.insert dir binding.name) ∅

def bindingByName (bindings : List WorkspaceBinding) : BTreeMap String WorkspaceBinding :=
  bindings.foldl (fun byName binding => byName.insert binding.name binding) ∅

def hintedWorkspace (bindings : List WorkspaceBinding) (series : TranscriptSeries) :
    Option String :=
  if series.workspaceHint = "" then none
  else
    match (bindingByName bindings)[series.workspaceHint]? with
    | none => none
    | some binding =>
      if binding.dir ≠ "" ∧ series.cwd ≠ "" ∧ cleanPath binding.dir ≠ cleanPath series.cwd then
        none
      else
        some binding.name

def sessionWorkspace (bindings : List WorkspaceBinding) (series : List TranscriptSeries) :
    BTreeMap String String :=
  series.foldl (fun bySession s =>
    match hintedWorkspace bindings s with
    | none => bySession
    | some name => if s.sessionId ≠ "" then bySession.insert s.sessionId name else bySession) ∅

def unhintedWorkspace (bindings : List WorkspaceBinding) (bySession : BTreeMap String String)
    (series : TranscriptSeries) : Option String :=
  let ofSession := if series.sessionId ≠ "" then bySession[series.sessionId]?.getD "" else ""
  let workspace :=
    if ofSession = "" ∧ series.cwd ≠ "" then
      ((uniqueByDir bindings)[cleanPath series.cwd]?).getD ""
    else ofSession
  if series.workspaceHint ≠ "" ∨ workspace = "" then none else some workspace

def assignTo (workspaceOf : TranscriptSeries → Option String)
    (assignments : BTreeMap String (List TranscriptSeries)) (series : TranscriptSeries) :
    BTreeMap String (List TranscriptSeries) :=
  match workspaceOf series with
  | none => assignments
  | some workspace => assignments.insert workspace (assignments[workspace]?.getD [] ++ [series])

def assignSeries (bindings : List WorkspaceBinding) (series : List TranscriptSeries) :
    BTreeMap String (List TranscriptSeries) :=
  let hinted := series.foldl (assignTo (hintedWorkspace bindings)) ∅
  series.foldl (assignTo (unhintedWorkspace bindings (sessionWorkspace bindings series))) hinted

def unavailableReasonFor (dir : String)
    (projectExists transcriptsFound codexHomeExists codexSessionsFound : Bool) : String :=
  if dir = "" then "missing_workspace_dir"
  else if !projectExists && !codexHomeExists then "no_project_transcripts"
  else if !transcriptsFound && !codexSessionsFound then "no_transcripts"
  else "workspace_unattributed"

/-! ## The query -/

structure Found where
  seenDirs : BTreeMap String DirScanState
  codexFlags : BTreeMap String (Bool × Bool)
  codexSeries : BTreeMap String (List TranscriptSeries)
  assignments : BTreeMap String (List TranscriptSeries)

def scanCodexBinding (files : UsageFiles) (query : HistoryQuery)
    (codex : BTreeMap String (Bool × Bool) × BTreeMap String (List TranscriptSeries))
    (binding : WorkspaceBinding) :
    BTreeMap String (Bool × Bool) × BTreeMap String (List TranscriptSeries) :=
  if binding.codexHomes.isEmpty then codex
  else
    let result := scanCodexHomes files query binding
    (codex.1.insert binding.name (result.homeExists, result.sessionsFound),
      if result.series.isEmpty then codex.2 else codex.2.insert binding.name result.series)

def find (files : UsageFiles) (query : HistoryQuery) (bindings : List WorkspaceBinding) :
    Found :=
  let seenDirs := bindings.foldl (scanBinding files query) ∅
  let codex := bindings.foldl (scanCodexBinding files query) (∅, ∅)
  { seenDirs := seenDirs
    codexFlags := codex.1
    codexSeries := codex.2
    assignments := assignSeries bindings (seenDirs.vals.flatMap DirScanState.series) }

def collectSeries (assignments : BTreeMap String (List TranscriptSeries)) :
    BTreeMap String (List TranscriptSeries) → List WorkspaceBinding →
      List (WorkspaceBinding × List TranscriptSeries)
  | _, [] => []
  | codexSeries, binding :: bindings =>
    (binding, assignments[binding.name]?.getD [] ++ codexSeries[binding.name]?.getD []) ::
      collectSeries assignments (codexSeries.erase binding.name) bindings

def composeWorkspace (query : HistoryQuery) (found : Found)
    (entry : WorkspaceBinding × List TranscriptSeries) : WorkspaceHistory :=
  let (binding, series) := entry
  if series.isEmpty then
    let state := found.seenDirs[binding.dir]?.getD {}
    let flags := found.codexFlags[binding.name]?.getD (false, false)
    { workspace := binding.name
      dir := binding.dir
      unavailableReason := unavailableReasonFor binding.dir state.projectExists
        state.transcriptsFound flags.1 flags.2 }
  else
    let agents := buildAgentHistories series query.bucketSize
    { workspace := binding.name
      dir := binding.dir
      available := true
      recentBuckets := aggregateBuckets (agents.map AgentHistory.recentBuckets) query.bucketSize
      currentSnapshot := aggregateSnapshots (agents.map AgentHistory.currentSnapshot)
      agents := agents }

structure HistoryResponse where
  since : Timestamp
  until_ : Timestamp
  bucketMinutes : Int
  workspaces : List WorkspaceHistory
deriving DecidableEq, Repr

def attributedSeries (files : UsageFiles) (query : HistoryQuery)
    (bindings : List WorkspaceBinding) : List (WorkspaceBinding × List TranscriptSeries) :=
  let found := find files query bindings
  collectSeries found.assignments found.codexSeries bindings

/-- The histories of some workspaces, by name. -/
def queryHistory (files : UsageFiles) (bindings : List WorkspaceBinding) (query : HistoryQuery) :
    HistoryResponse :=
  { since := query.since
    until_ := query.until_
    bucketMinutes := query.bucketSize / 60
    workspaces :=
      ((attributedSeries files query bindings).map
          (composeWorkspace query (find files query bindings))).insertionSort
        fun a b => a.workspace ≤ b.workspace }

/-! ## Trends -/

structure UsageBucket where
  start : Timestamp
  end_ : Timestamp
  totals : Tokens
  mcpProxy : MCPProxyMetrics
  turns : Int
deriving DecidableEq, Repr

def makeUsageBuckets (buckets : List Bucket) (duration : Int) : List UsageBucket :=
  buckets.map fun (b : Bucket) =>
    { start := b.start
      end_ := if b.end_.timestamp = 0 then b.start + duration else b.end_
      totals := b.tokens
      mcpProxy := b.mcpProxy
      turns := b.turns }

def sumBucketTotals (buckets : List UsageBucket) : Tokens :=
  buckets.foldl (fun total b => total + b.totals) 0

def sumBucketMcp (buckets : List UsageBucket) : MCPProxyMetrics :=
  buckets.foldl (fun total b => total + b.mcpProxy) 0

structure AgentTrend where
  agent : String
  available : Bool
  latestSessionId : String
  latestTranscriptPath : String
  buckets : List UsageBucket
  total : Tokens
  mcpProxy : MCPProxyMetrics
  lastActivity : Option Timestamp
  latestTokens : Tokens
  latestMcpProxy : MCPProxyMetrics
  latestModel : String
deriving DecidableEq, Repr

def makeAgentTrend (duration : Int) (a : AgentHistory) : AgentTrend :=
  let buckets := makeUsageBuckets a.recentBuckets duration
  { agent := a.agent
    available := a.available
    latestSessionId := a.latestSessionId
    latestTranscriptPath := a.latestTranscript
    buckets := buckets
    total := sumBucketTotals buckets
    mcpProxy := sumBucketMcp buckets
    lastActivity := a.currentSnapshot.lastActivity
    latestTokens := a.currentSnapshot.currentContext
    latestMcpProxy := a.currentSnapshot.currentMcpProxy
    latestModel := a.currentSnapshot.currentModel }

structure WorkspaceTrend where
  workspace : String
  cwd : String
  available : Bool
  error : String := ""
  unavailableReason : String
  windowStart : Timestamp
  windowEnd : Timestamp
  bucketMinutes : Int
  buckets : List UsageBucket := []
  total : Tokens := 0
  mcpProxy : MCPProxyMetrics := 0
  lastActivity : Option Timestamp := none
  latestTokens : Tokens := 0
  latestMcpProxy : MCPProxyMetrics := 0
  latestModel : String := ""
  agents : List AgentTrend := []
deriving DecidableEq, Repr

def workspaceTrend (resp : HistoryResponse) (ws : WorkspaceHistory) : WorkspaceTrend :=
  let duration := seconds (resp.bucketMinutes * 60)
  let trend : WorkspaceTrend :=
    { workspace := ws.workspace
      cwd := ws.dir
      available := ws.available
      unavailableReason := ws.unavailableReason
      windowStart := resp.since
      windowEnd := resp.until_
      bucketMinutes := resp.bucketMinutes }
  if !ws.available then { trend with error := ws.unavailableReason }
  else
    let buckets := makeUsageBuckets ws.recentBuckets duration
    { trend with
      buckets := buckets
      total := sumBucketTotals buckets
      mcpProxy := sumBucketMcp buckets
      lastActivity := ws.currentSnapshot.lastActivity
      latestTokens := ws.currentSnapshot.currentContext
      latestMcpProxy := ws.currentSnapshot.currentMcpProxy
      latestModel := ws.currentSnapshot.currentModel
      agents := ws.agents.map (makeAgentTrend duration) }

def queryWorkspaceTrends (resp : HistoryResponse) : List WorkspaceTrend :=
  resp.workspaces.map (workspaceTrend resp)

/-! ## Requests -/

/-- The environment of the daemon that decides where transcripts are looked for. -/
structure UsageHost where
  home : Option String
  workingDir : String

def normalizePath (path : String) : String :=
  let trimmed := Text.trim path
  let absolute := Path.isAbsolute trimmed
  let parts := (Path.segments trimmed).foldl (fun parts segment =>
    if segment = "" ∨ segment = "." then parts
    else if segment = ".." then
      if parts = [] ∧ !absolute then [".."] else parts.dropLast
    else parts ++ [segment]) ([] : List String)
  if parts = [] then (if absolute then "/" else ".")
  else if absolute then "/" ++ "/".intercalate parts
  else "/".intercalate parts

def encodeProjectKey (dir : String) : String :=
  dir.map fun c => if c = '/' ∨ c = '.' then '-' else c

def claudeProjectPath (home dir : String) : String :=
  Path.join (Path.join (Path.join home ".claude") "projects")
    (encodeProjectKey (normalizePath dir))

/-- The directory that a Codex home is named after. -/
def normalizeDirForKey (host : UsageHost) (dir : String) : String :=
  let components :=
    if Path.isAbsolute dir ∨ dir = "" then Path.components dir
    else Path.components host.workingDir ++ (Path.components dir).filter (· ≠ ".")
  let (rooted, stack) := components.foldl (fun (rooted, stack) component =>
    if component = "" then (true, [])
    else if component = "." then (rooted, stack)
    else if component = ".." then (rooted, stack.dropLast)
    else (rooted, stack ++ [component])) (false, ([] : List String))
  (if rooted then "/" else "") ++ "/".intercalate stack

def codexHomeKey (host : UsageHost) (workspace dir : String) : String :=
  workspace ++ "-" ++
    Hex.encode ((Sha1.digest (normalizeDirForKey host dir).toUTF8.toList).take 6)

def codexHomesRoot (home : String) : String :=
  Path.join (Path.join home ".ax") "codex"

def isCodexHomeOf (workspace name : String) : Bool :=
  match Text.stripStart (workspace ++ "-") name with
  | none => false
  | some rest =>
    rest.length = 12 && rest.toList.all fun c =>
      c.isDigit || ('a' ≤ c && c ≤ 'f') || ('A' ≤ c && c ≤ 'F')

def discoverCodexHomeCandidates (files : UsageFiles) (host : UsageHost)
    (home workspace dir : String) : List String :=
  let root := codexHomesRoot home
  let canonical := Path.join root (codexHomeKey host workspace dir)
  canonical ::
    ((files.codexHomeNames.filter (isCodexHomeOf workspace)).map (Path.join root)).filter
      fun path => Path.components path ≠ Path.components canonical

def buildBinding (files : UsageFiles) (host : UsageHost) (workspace cwd : String) :
    WorkspaceBinding :=
  { name := workspace
    dir := cwd
    claudeProjectDir := if cwd = "" then none else host.home.map fun home =>
      claudeProjectPath home cwd
    codexHomes := if cwd = "" then [] else (host.home.map fun home =>
      discoverCodexHomeCandidates files host home workspace cwd).getD [] }

/-- The default window and bucket size, in seconds. -/
def defaultHistoryWindow : Nat := 3 * 60 * 60

@[inherit_doc defaultHistoryWindow]
def defaultBucketSize : Nat := 5 * 60

def queryUntil (now : Timestamp) (since bucket : Nat) : HistoryQuery :=
  let since := if since = 0 then defaultHistoryWindow else since
  { since := now - (fromStd since).getD 0
    until_ := now
    bucketSize := if bucket = 0 then defaultBucketSize else bucket }

def queryWorkspaceTrendsFor (files : UsageFiles) (bindings : List WorkspaceBinding)
    (now : Timestamp) (since bucket : Nat) : List WorkspaceTrend :=
  queryWorkspaceTrends (queryHistory files bindings (queryUntil now since bucket))

structure UsageTrendsPayload where
  workspaces : List (String × String)
  sinceMinutes : Int
  bucketMinutes : Int
deriving DecidableEq, Repr

def minutesToSeconds (minutes : Int) : Nat :=
  min (minutes.toNat * 60) 18446744073709551615

def UsageTrendsPayload.bindings (payload : UsageTrendsPayload) (files : UsageFiles)
    (host : UsageHost) : List WorkspaceBinding :=
  payload.workspaces.map fun request => buildBinding files host request.1 request.2

/-- The answer to a request for usage trends. -/
def handleUsageTrends (files : UsageFiles) (host : UsageHost) (now : Timestamp)
    (payload : UsageTrendsPayload) : List WorkspaceTrend :=
  queryWorkspaceTrendsFor files (payload.bindings files host) now
    (minutesToSeconds payload.sinceMinutes) (minutesToSeconds payload.bucketMinutes)

end Ax.Usage
